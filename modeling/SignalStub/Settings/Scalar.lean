import SignalStub.Number.Integer
import SignalStub.Number.Shortest
import SignalStub.Text.LetterCase

/-! # Values of variables

    The text of a variable is read as the first of four kinds that it fits: a truth value, a signed
    64-bit integer, a double, or else a plain text. What a setting asks for is then converted from
    that kind.
-/

namespace SignalStub.Settings

open Number

/-- The value of a variable. -/
inductive Scalar
  | boolean (value : Bool)
  | integer (value : Int)
  | real (value : Binary64)
  | text (value : String)
  deriving DecidableEq, Repr

namespace Scalar

/-- Reads the text of a variable. -/
def read (s : String) : Scalar :=
  let lower := Text.lowercase s
  if lower = "true" then .boolean true
  else if lower = "false" then .boolean false
  else match readInt64 s.toList with
    | .ok n => .integer n
    | .error _ => match Binary64.read? s.toList with
      | some x => .real x
      | none => .text s

/-- The text that a free-text setting takes from a value. -/
def toText : Scalar → String
  | .boolean value => if value then "true" else "false"
  | .integer value => integerText value
  | .real value => value.toText
  | .text value => value

/-- The truth value that a word stands for, whatever its letter case. -/
def switch? (s : String) : Option Bool :=
  let lower := Text.lowercase s
  if lower = "on" || lower = "yes" then some true
  else if lower = "off" || lower = "no" then some false
  else none

end Scalar

/-- What the variables give for one key. -/
inductive Entry
  | scalar (value : Scalar)
  | table
  | sequence
  deriving DecidableEq, Repr

end SignalStub.Settings
