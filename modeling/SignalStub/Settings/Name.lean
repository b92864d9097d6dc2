/-! # Names of settings

    The name of a variable, once in lower case, says where its value goes. A key alone holds the
    value itself. A key followed by steps, `.key` or `[index]`, holds a table or a sequence that the
    value lies in. Every other name belongs to no key at all.
-/

namespace SignalStub.Settings

/-- What a name makes of its key. -/
inductive NameShape
  /-- The key holds the value itself. -/
  | value (key : String)
  /-- The key holds a table that the value lies in. -/
  | table (key : String)
  /-- The key holds a sequence that the value lies in. -/
  | sequence (key : String)
  /-- The name is no key and no path. -/
  | other
  deriving DecidableEq, Repr

/-- The characters of keys. -/
def isKeyChar (c : Char) : Bool :=
  c.isAlphanum || c = '_' || c = '-'

/-- The blanks allowed around an index. -/
def isIndexBlank (c : Char) : Bool :=
  c = ' ' || c = '\t'

/-- Where the reader stands in the steps of a path. -/
inductive PathScan
  /-- After at least one character of a key. -/
  | key
  /-- After a dot, where a key has to begin. -/
  | dot
  /-- After an opening bracket and any blanks. -/
  | bracket
  /-- After the minus sign of an index. -/
  | minus
  /-- After at least one digit of an index. -/
  | index (negative : Bool) (value : Nat)
  /-- After the blanks that end an index. -/
  | blank
  /-- After a closing bracket. -/
  | closed
  deriving DecidableEq, Repr

/-- Whether an index fits a signed 64-bit word. -/
def indexFits (negative : Bool) (value : Nat) : Bool :=
  if negative then value ≤ UInt64.size / 2 else value < UInt64.size / 2

/-- The reader's place after one more character, if a path can go on with it. -/
def PathScan.next? : PathScan → Char → Option PathScan
  | .key, c => if isKeyChar c then some .key else step? c
  | .closed, c => step? c
  | .dot, c => if isKeyChar c then some .key else none
  | .bracket, c =>
    if isIndexBlank c then some .bracket
    else if c = '-' then some .minus
    else if c.isDigit then some (.index false (c.toNat - 48))
    else none
  | .minus, c => if c.isDigit then some (.index true (c.toNat - 48)) else none
  | .index negative value, c =>
    if c.isDigit then some (.index negative (10 * value + (c.toNat - 48)))
    else if !indexFits negative value then none
    else if c = ']' then some .closed
    else if isIndexBlank c then some .blank
    else none
  | .blank, c =>
    if c = ']' then some .closed else if isIndexBlank c then some .blank else none
where
  /-- The first character of a step. -/
  step? (c : Char) : Option PathScan :=
    if c = '.' then some .dot else if c = '[' then some .bracket else none

/-- Whether a path may end here. -/
def PathScan.isEnd : PathScan → Bool
  | .key | .closed => true
  | _ => false

/-- Whether the characters complete a path. -/
def PathScan.accepts : PathScan → List Char → Bool
  | scan, [] => scan.isEnd
  | scan, c :: rest =>
    match scan.next? c with
    | some scan => scan.accepts rest
    | none => false

/-- What a name in lower case makes of its key. -/
def NameShape.ofName (name : String) : NameShape :=
  let cs := name.toList
  let key := String.ofList (cs.takeWhile isKeyChar)
  let steps := cs.dropWhile isKeyChar
  if key.isEmpty || !PathScan.key.accepts steps then .other
  else match steps with
    | [] => .value key
    | '.' :: _ => .table key
    | _ => .sequence key

end SignalStub.Settings
