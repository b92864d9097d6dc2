import SignalStub.Text.GraphemeExtend
import SignalStub.Text.Unprintable

/-! # Quoted texts and characters

    A quoted text stands on one line whatever it contains. The delimiter and the backslash are
    escaped, as are the usual controls; every other character that would not be seen, or would be
    drawn on its neighbour, is written by its code point. A text stands between double quotes and
    a character between single ones, and neither escapes the delimiter of the other.

    `decode` reads a quoted form back, so the form determines what was quoted.
-/

namespace SignalStub.Text.Quoted

/-! ## Writing -/

/-- A code point in braces, in lower-case hexadecimal. -/
def escapeCode (c : Char) : List Char :=
  '\\' :: 'u' :: '\x7b' :: (Nat.toDigits 16 c.toNat ++ ['\x7d'])

/-- One character as it stands between two delimiters. -/
def escape (delimiter c : Char) : List Char :=
  if c = '\x00' then ['\\', '0']
  else if c = '\t' then ['\\', 't']
  else if c = '\r' then ['\\', 'r']
  else if c = '\n' then ['\\', 'n']
  else if c = '\\' || c = delimiter then ['\\', c]
  else if graphemeExtendRanges.has c || unprintableRanges.has c then escapeCode c
  else [c]

/-- Characters between two delimiters. -/
def encode (delimiter : Char) (cs : List Char) : List Char :=
  delimiter :: (cs.flatMap (escape delimiter) ++ [delimiter])

/-- A text between double quotes. -/
def text (s : String) : String :=
  String.ofList (encode '"' s.toList)

/-- A character between single quotes. -/
def char (c : Char) : String :=
  String.ofList (encode '\'' [c])

/-! ## Reading back -/

/-- Where the reader stands inside a quoted form. -/
inductive Reading
  /-- Between two characters. -/
  | plain
  /-- After a backslash. -/
  | escaped
  /-- After the `u` of a code point. -/
  | opening
  /-- Inside the braces, with the value of the digits so far. -/
  | code (value : Nat)
  deriving DecidableEq, Repr

/-- The value of a lower-case hexadecimal digit. -/
def hexDigit? (c : Char) : Option Nat :=
  if '0' ≤ c && c ≤ '9' then some (c.toNat - 48)
  else if 'a' ≤ c && c ≤ 'f' then some (c.toNat - 87)
  else none

/-- The character that a backslash and a letter stand for. -/
def escaped? : Char → Option Char
  | '0' => some '\x00'
  | 't' => some '\t'
  | 'r' => some '\r'
  | 'n' => some '\n'
  | '\\' => some '\\'
  | '"' => some '"'
  | '\'' => some '\''
  | _ => none

/-- Reads up to the closing delimiter; answers what was quoted and what follows the form. -/
def decodeFrom (delimiter : Char) : Reading → List Char → Option (List Char × List Char)
  | _, [] => none
  | .plain, c :: rest =>
    if c = delimiter then some ([], rest)
    else if c = '\\' then decodeFrom delimiter .escaped rest
    else (decodeFrom delimiter .plain rest).map fun (cs, rest) => (c :: cs, rest)
  | .escaped, c :: rest =>
    if c = 'u' then decodeFrom delimiter .opening rest
    else match escaped? c with
      | some d => (decodeFrom delimiter .plain rest).map fun (cs, rest) => (d :: cs, rest)
      | none => none
  | .opening, c :: rest =>
    if c = '\x7b' then decodeFrom delimiter (.code 0) rest else none
  | .code value, c :: rest =>
    if c = '\x7d' then
      (decodeFrom delimiter .plain rest).map fun (cs, rest) => (Char.ofNat value :: cs, rest)
    else match hexDigit? c with
      | some d => decodeFrom delimiter (.code (16 * value + d)) rest
      | none => none

/-- Reads a quoted form from its opening delimiter on. -/
def decode (delimiter : Char) : List Char → Option (List Char × List Char)
  | [] => none
  | c :: rest => if c = delimiter then decodeFrom delimiter .plain rest else none

end SignalStub.Text.Quoted
