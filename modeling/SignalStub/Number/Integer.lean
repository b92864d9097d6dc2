/-! # Integers as texts

    An integer is an optional sign and at least one digit. Reading goes from left to right and stops
    at the first fault: a character that is no digit, or a digit that takes the value out of the
    signed 64-bit range.
-/

namespace SignalStub.Number

/-- Why a text is not a signed 64-bit integer. -/
inductive IntegerFault
  | empty
  | invalidDigit
  | tooLarge
  | tooSmall
  deriving DecidableEq, Repr

/-- What is told to whoever wrote the text. -/
def IntegerFault.message : IntegerFault → String
  | .empty => "cannot parse integer from empty string"
  | .invalidDigit => "invalid digit found in string"
  | .tooLarge => "number too large to fit in target type"
  | .tooSmall => "number too small to fit in target type"

/-- The value of a decimal digit. -/
def digit? (c : Char) : Option Nat :=
  if c.isDigit then some (c.toNat - 48) else none

/-- Reads on from `value`, which may not grow past `limit`. -/
def readDigits (limit : Nat) (past : IntegerFault) (value : Nat) :
    List Char → Except IntegerFault Nat
  | [] => .ok value
  | c :: rest =>
    match digit? c with
    | none => .error .invalidDigit
    | some d =>
      if limit < 10 * value + d then .error past
      else readDigits limit past (10 * value + d) rest

/-- Reads at least one digit. -/
def readMagnitude (limit : Nat) (past : IntegerFault) : List Char → Except IntegerFault Nat
  | [] => .error .invalidDigit
  | cs => readDigits limit past 0 cs

/-- Reads a signed 64-bit integer. -/
def readInt64 : List Char → Except IntegerFault Int
  | [] => .error .empty
  | '-' :: cs => (readMagnitude (UInt64.size / 2) .tooSmall cs).map fun n => -(n : Int)
  | '+' :: cs => (readMagnitude (UInt64.size / 2 - 1) .tooLarge cs).map Int.ofNat
  | cs => (readMagnitude (UInt64.size / 2 - 1) .tooLarge cs).map Int.ofNat

/-- The decimal text of an integer. -/
def integerText : Int → String
  | .ofNat n => n.repr
  | .negSucc n => "-" ++ (n + 1).repr

end SignalStub.Number
