import SignalStub.Settings.Scalar
import SignalStub.Text.Quoted

/-! # Reading one setting

    Each kind of setting converts what the variables give for its key, or says what it found and what
    it expected instead. A fault that the conversion itself notices also tells where the value came
    from.
-/

namespace SignalStub.Settings

open Number

/-- What was found where something else was expected. -/
inductive Found
  | integer (value : Int)
  | unsigned (value : Nat)
  | text (value : String)
  | table
  | sequence
  deriving DecidableEq, Repr

/-- The wording of what was found. -/
def Found.describe : Found → String
  | .integer value => "64-bit integer `" ++ integerText value ++ "`"
  | .unsigned value => "64-bit unsigned integer `" ++ value.repr ++ "`"
  | .text value => "string " ++ Text.Quoted.text value
  | .table => "map"
  | .sequence => "sequence"

/-- What a setting expects. -/
inductive Expected
  | text
  | integer
  | unsigned64
  | unsigned16
  | boolean
  deriving DecidableEq, Repr

/-- The wording of what was expected. -/
def Expected.describe : Expected → String
  | .text => "a string"
  | .integer => "an integer"
  | .unsigned64 => "an unsigned 64 bit or less integer"
  | .unsigned16 => "an unsigned 16 bit integer"
  | .boolean => "a boolean"

/-- A setting whose value does not have the expected kind. -/
structure FieldFault where
  key : String
  found : Found
  expected : Expected
  /-- Whether the message names the environment as the origin of the value. -/
  withOrigin : Bool
  deriving DecidableEq, Repr

/-- The text of a fault. -/
def FieldFault.message (fault : FieldFault) : String :=
  "invalid type: " ++ fault.found.describe ++ ", expected " ++ fault.expected.describe ++
    " for key `" ++ fault.key ++ "`" ++ (if fault.withOrigin then " in the environment" else "")

/-! ## The kinds of settings -/

/-- A free text. -/
def readText (key : String) : Entry → Except FieldFault String
  | .scalar value => .ok value.toText
  | .table => .error ⟨key, .table, .text, false⟩
  | .sequence => .error ⟨key, .sequence, .text, false⟩

/-- An unsigned 64-bit number. A truth value or a switch word counts as one or zero, and a double is
    rounded and cut to the range. -/
def readUnsigned64 (key : String) : Entry → Except FieldFault Nat
  | .scalar (.boolean value) => .ok value.toNat
  | .scalar (.integer value) =>
    if 0 ≤ value then .ok value.toNat else .error ⟨key, .integer value, .unsigned64, true⟩
  | .scalar (.real value) => .ok value.toUnsigned64
  | .scalar (.text value) =>
    match Scalar.switch? value with
    | some on => .ok on.toNat
    | none => .error ⟨key, .text value, .integer, true⟩
  | .table => .error ⟨key, .table, .integer, false⟩
  | .sequence => .error ⟨key, .sequence, .integer, false⟩

/-- A seed, which is any unsigned 64-bit number. -/
def readSeed (key : String) (entry : Entry) : Except FieldFault UInt64 :=
  (readUnsigned64 key entry).map fun n => UInt64.ofNat n

/-- A port, which is an unsigned 64-bit number that fits into 16 bits. -/
def readPort (key : String) (entry : Entry) : Except FieldFault UInt16 :=
  match readUnsigned64 key entry with
  | .error fault => .error fault
  | .ok n =>
    if n < UInt16.size then .ok (UInt16.ofNat n) else .error ⟨key, .unsigned n, .unsigned16, false⟩

/-- A truth value. A number counts as true unless it is zero. -/
def readBoolean (key : String) : Entry → Except FieldFault Bool
  | .scalar (.boolean value) => .ok value
  | .scalar (.integer value) => .ok (value != 0)
  | .scalar (.real value) => .ok (!value.isZero)
  | .scalar (.text value) =>
    match Scalar.switch? value with
    | some on => .ok on
    | none => .error ⟨key, .text (Text.lowercase value), .boolean, true⟩
  | .table => .error ⟨key, .table, .boolean, false⟩
  | .sequence => .error ⟨key, .sequence, .boolean, false⟩

end SignalStub.Settings
