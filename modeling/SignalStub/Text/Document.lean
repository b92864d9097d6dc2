/-! # Answer documents

    The body of an answer is one JSON object whose members hold numbers, texts and lists of numbers.
    It is written without blanks. `read?` reads such an object back, so the body determines the
    document.
-/

namespace SignalStub

/-- The value of a member. -/
inductive Document.Value
  | number (value : Nat)
  | text (value : String)
  | numbers (values : List Nat)
  deriving DecidableEq, Repr

/-- An object: named values in the order in which they are written. -/
structure Document where
  members : List (String × Document.Value)
  deriving DecidableEq, Repr

namespace Document

/-! ## Writing -/

/-- Two lower-case hexadecimal digits of a control. -/
def hexPair (n : Nat) : List Char :=
  [Nat.digitChar (n / 16), Nat.digitChar (n % 16)]

/-- One character as it stands in a JSON string. -/
def escape (c : Char) : List Char :=
  if c = '"' then ['\\', '"']
  else if c = '\\' then ['\\', '\\']
  else if c = '\x08' then ['\\', 'b']
  else if c = '\x0c' then ['\\', 'f']
  else if c = '\n' then ['\\', 'n']
  else if c = '\r' then ['\\', 'r']
  else if c = '\t' then ['\\', 't']
  else if c.toNat < 32 then '\\' :: 'u' :: '0' :: '0' :: hexPair c.toNat
  else [c]

/-- A JSON string. -/
def writeText (s : String) : List Char :=
  '"' :: (s.toList.flatMap escape ++ ['"'])

/-- A number. -/
def writeNumber (n : Nat) : List Char :=
  Nat.toDigits 10 n

/-- Pieces with commas between them. -/
def commaSeparated : List (List Char) → List Char
  | [] => []
  | [piece] => piece
  | piece :: pieces => piece ++ ',' :: commaSeparated pieces

/-- A value. -/
def writeValue : Value → List Char
  | .number n => writeNumber n
  | .text s => writeText s
  | .numbers ns => '[' :: (commaSeparated (ns.map writeNumber) ++ [']'])

/-- A member: its name, a colon and its value. -/
def writeMember (member : String × Value) : List Char :=
  writeText member.1 ++ ':' :: writeValue member.2

/-- The text of a document. -/
def render (document : Document) : String :=
  String.ofList ('\x7b' :: (commaSeparated (document.members.map writeMember) ++ ['\x7d']))

/-! ## Reading back -/

/-- Where the reader stands in a JSON string. -/
inductive Reading
  /-- Between two characters. -/
  | plain
  /-- After a backslash. -/
  | escaped
  /-- Inside a code point, with the number of digits to come after the next one. -/
  | code (left : Nat) (value : Nat)
  deriving DecidableEq, Repr

/-- The character that a backslash and a letter stand for. -/
def escaped? : Char → Option Char
  | '"' => some '"'
  | '\\' => some '\\'
  | '/' => some '/'
  | 'b' => some '\x08'
  | 'f' => some '\x0c'
  | 'n' => some '\n'
  | 'r' => some '\r'
  | 't' => some '\t'
  | _ => none

/-- The value of a hexadecimal digit. -/
def hexDigit? (c : Char) : Option Nat :=
  if '0' ≤ c && c ≤ '9' then some (c.toNat - 48)
  else if 'a' ≤ c && c ≤ 'f' then some (c.toNat - 87)
  else if 'A' ≤ c && c ≤ 'F' then some (c.toNat - 55)
  else none

/-- Reads a JSON string behind its opening quote; answers the string and what follows it. -/
def readTextFrom : Reading → List Char → Option (List Char × List Char)
  | _, [] => none
  | .plain, c :: rest =>
    if c = '"' then some ([], rest)
    else if c = '\\' then readTextFrom .escaped rest
    else if c.toNat < 32 then none
    else (readTextFrom .plain rest).map fun (cs, rest) => (c :: cs, rest)
  | .escaped, c :: rest =>
    if c = 'u' then readTextFrom (.code 3 0) rest
    else match escaped? c with
      | some d => (readTextFrom .plain rest).map fun (cs, rest) => (d :: cs, rest)
      | none => none
  | .code left value, c :: rest =>
    match hexDigit? c, left with
    | none, _ => none
    | some d, left + 1 => readTextFrom (.code left (16 * value + d)) rest
    | some d, 0 =>
      if (16 * value + d).isValidChar then
        (readTextFrom .plain rest).map fun (cs, rest) => (Char.ofNat (16 * value + d) :: cs, rest)
      else
        none

/-- Reads a JSON string. -/
def readText : List Char → Option (String × List Char)
  | '"' :: rest => (readTextFrom .plain rest).map fun (cs, rest) => (String.ofList cs, rest)
  | _ => none

/-- Reads a number without a sign, a fraction or a superfluous zero. -/
def readNumber (cs : List Char) : Option (Nat × List Char) :=
  let digits := cs.takeWhile Char.isDigit
  let value := digits.foldl (fun n c => 10 * n + (c.toNat - 48)) 0
  if digits = Nat.toDigits 10 value then some (value, cs.dropWhile Char.isDigit) else none

/-- Reads pieces with commas between them up to a closing character. -/
def readSeparated {α : Type} (close : Char) (read : List Char → Option (α × List Char)) :
    Nat → List Char → Option (List α × List Char)
  | 0, _ => none
  | steps + 1, cs =>
    match read cs with
    | some (item, c :: rest) =>
      if c = close then some ([item], rest)
      else if c = ',' then
        (readSeparated close read steps rest).map fun (items, rest) => (item :: items, rest)
      else none
    | _ => none

/-- Reads a list of pieces behind its opening character. -/
def readList {α : Type} (close : Char) (read : List Char → Option (α × List Char))
    (cs : List Char) : Option (List α × List Char) :=
  match cs with
  | c :: rest => if c = close then some ([], rest) else readSeparated close read cs.length cs
  | [] => none

/-- Reads a value. -/
def readValue : List Char → Option (Value × List Char)
  | '[' :: rest => (readList ']' readNumber rest).map fun (ns, rest) => (.numbers ns, rest)
  | '"' :: rest => (readText ('"' :: rest)).map fun (s, rest) => (.text s, rest)
  | cs => (readNumber cs).map fun (n, rest) => (.number n, rest)

/-- Reads a member. -/
def readMember (cs : List Char) : Option ((String × Value) × List Char) :=
  match readText cs with
  | some (name, ':' :: rest) => (readValue rest).map fun (value, rest) => ((name, value), rest)
  | _ => none

/-- Reads a document. -/
def read? (s : String) : Option Document :=
  match s.toList with
  | '\x7b' :: rest =>
    match readList '\x7d' readMember rest with
    | some (members, []) => some ⟨members⟩
    | _ => none
  | _ => none

end Document

end SignalStub
