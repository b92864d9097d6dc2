/-! # Request targets

    A request names its target in one of four forms: a path with an optional query, a whole address
    with a scheme and an authority, an authority alone, or a star. The path is kept exactly as it is
    written; a fragment is dropped.
-/

namespace SignalStub.Http

/-- Why a text is no request target. -/
inductive UriFault
  | invalidChar
  | invalidAuthority
  | invalidFormat
  | tooLong
  | empty
  | schemeTooLong
  deriving DecidableEq, Repr

/-- The text of a fault. -/
def UriFault.message : UriFault → String
  | .invalidChar => "invalid uri character"
  | .invalidAuthority => "invalid authority"
  | .invalidFormat => "invalid format"
  | .tooLong => "uri too long"
  | .empty => "empty string"
  | .schemeTooLong => "scheme too long"

/-- The target of a request. -/
structure Uri where
  scheme : Option String
  authority : Option String
  path : String
  query : Option String
  deriving DecidableEq, Repr

namespace Uri

/-- The longest target in bytes. -/
def maxLength : Nat := 65534

/-- The longest scheme. -/
def maxScheme : Nat := 64

/-! ## Path and query -/

/-- The characters that a path may hold: no blanks or controls, none that ends the path, and few of
    those that should be written by their code. -/
def isPathChar (c : Char) : Bool :=
  let n := c.toNat
  n = 0x21 || n = 0x22 || (0x24 ≤ n && n ≤ 0x3b) || n = 0x3d || (0x40 ≤ n && n ≤ 0x5f) ||
    (0x61 ≤ n && n ≤ 0x7e) || 0x80 ≤ n

/-- The characters that a query may hold. -/
def isQueryChar (c : Char) : Bool :=
  let n := c.toNat
  n = 0x21 || (0x24 ≤ n && n ≤ 0x3b) || n = 0x3d || (0x3f ≤ n && n ≤ 0x7e) || 0x80 ≤ n

/-- Splits off what stands before the first character of a kind. -/
def splitAt (stop : Char → Bool) (cs : List Char) : List Char × List Char :=
  (cs.takeWhile fun c => !stop c, cs.dropWhile fun c => !stop c)

/-- Reads a path and the query after it, up to a fragment or the end. -/
def readPathQuery (cs : List Char) : Except UriFault (List Char × Option (List Char)) :=
  let (path, rest) := splitAt (fun c => c = '?' || c = '#') cs
  if !path.all isPathChar then
    .error .invalidChar
  else match rest with
    | '?' :: rest =>
      let query := (splitAt (· = '#') rest).1
      if query.all isQueryChar then .ok (path, some query) else .error .invalidChar
    | _ => .ok (path, none)

/-! ## Authority -/

/-- The characters of an authority, the percent sign apart. -/
def isAuthorityChar (c : Char) : Bool :=
  c.isAlphanum || "-._~:[]@!$&'()*+,;=".toList.contains c

/-- What is known of an authority when some of its characters are read. -/
structure AuthorityScan where
  /-- Colons since the last user information or bracketed address. -/
  colons : Nat
  opened : Bool
  closed : Bool
  /-- A percent sign since the last user information or bracketed address. -/
  percent : Bool
  /-- The last character is the sign that ends the user information. -/
  afterUser : Bool

/-- Nothing is read yet. -/
def AuthorityScan.start : AuthorityScan := ⟨0, false, false, false, false⟩

/-- Reads one more character. -/
def AuthorityScan.next (scan : AuthorityScan) (c : Char) : Except UriFault AuthorityScan :=
  let scan := { scan with afterUser := false }
  if c = ':' then
    if 8 ≤ scan.colons then .error .invalidAuthority
    else .ok { scan with colons := scan.colons + 1 }
  else if c = '[' then
    if scan.percent || scan.opened then .error .invalidAuthority
    else .ok { scan with opened := true }
  else if c = ']' then
    if !scan.opened || scan.closed then .error .invalidAuthority
    else .ok { scan with closed := true, colons := 0, percent := false }
  else if c = '@' then .ok { scan with colons := 0, percent := false, afterUser := true }
  else if c = '%' then .ok { scan with percent := true }
  else if isAuthorityChar c then .ok scan
  else .error .invalidChar

/-- Reads the characters of an authority. -/
def AuthorityScan.run : AuthorityScan → List Char → Except UriFault AuthorityScan
  | scan, [] => .ok scan
  | scan, c :: rest =>
    match scan.next c with
    | .ok scan => scan.run rest
    | .error fault => .error fault

/-- Whether an authority may end here: its brackets are paired, at most one colon stands before a
    port, a host follows the user information, and no percent sign is left in the host. -/
def AuthorityScan.isEnd (scan : AuthorityScan) : Bool :=
  scan.opened == scan.closed && scan.colons ≤ 1 && !scan.afterUser && !scan.percent

/-- Splits an authority off a text that is not empty. -/
def readAuthority (cs : List Char) : Except UriFault (List Char × List Char) :=
  if cs.isEmpty then
    .error .empty
  else
    let (authority, rest) := splitAt (fun c => c = '/' || c = '?' || c = '#') cs
    match AuthorityScan.start.run authority with
    | .error fault => .error fault
    | .ok scan => if scan.isEnd then .ok (authority, rest) else .error .invalidAuthority

/-! ## Scheme -/

/-- The characters of schemes. -/
def isSchemeChar (c : Char) : Bool :=
  c.isAlphanum || c = '+' || c = '-' || c = '.' || c = '~'

/-- Whether a text begins with another, whatever the case of its letters. -/
def startsWith (start cs : List Char) : Bool :=
  (cs.take start.length).map Char.toLower == start

/-- Splits a scheme and the mark after it off a text, if it begins with one. -/
def readScheme (cs : List Char) : Except UriFault (Option (List Char) × List Char) :=
  if startsWith "http://".toList cs then .ok (some "http".toList, cs.drop 7)
  else if startsWith "https://".toList cs then .ok (some "https".toList, cs.drop 8)
  else
    let scheme := cs.takeWhile isSchemeChar
    match cs.dropWhile isSchemeChar with
    | ':' :: '/' :: '/' :: rest =>
      if cs.length ≤ 3 then .ok (none, cs)
      else if maxScheme < scheme.length then .error .schemeTooLong
      else .ok (some scheme, rest)
    | _ => .ok (none, cs)

/-! ## Targets -/

/-- A path with its query. -/
def ofPath (cs : List Char) : Except UriFault Uri := do
  let (path, query) ← readPathQuery cs
  return ⟨none, none, String.ofList path, query.map String.ofList⟩

/-- Everything but a path: a whole address, or an authority alone. An address without a path asks
    for the root. -/
def ofAddress (cs : List Char) : Except UriFault Uri := do
  match ← readScheme cs with
  | (none, cs) =>
    let (authority, rest) ← readAuthority cs
    if rest.isEmpty then
      return ⟨none, some (String.ofList authority), "", none⟩
    else
      throw .invalidFormat
  | (some scheme, cs) =>
    let (authority, rest) ← readAuthority cs
    if authority.isEmpty then
      throw .invalidFormat
    else
      let (path, query) ← readPathQuery rest
      return ⟨some (String.ofList scheme), some (String.ofList authority),
        if path.isEmpty then "/" else String.ofList path, query.map String.ofList⟩

/-- A target of one character, which is a path, a star or a host. -/
def ofChar (c : Char) : Except UriFault Uri :=
  if c = '/' || c = '*' then
    .ok ⟨none, none, String.singleton c, none⟩
  else
    match readAuthority [c] with
    | .error fault => .error fault
    | .ok (_, []) => .ok ⟨none, some (String.singleton c), "", none⟩
    | .ok _ => .error .invalidChar

/-- Reads a target. -/
def read (s : String) : Except UriFault Uri :=
  if maxLength < s.utf8ByteSize then
    .error .tooLong
  else
    match s.toList with
    | [] => .error .empty
    | [c] => ofChar c
    | cs => if cs.head? = some '/' then ofPath cs else ofAddress cs

end Uri

end SignalStub.Http
