/-! # Methods and headers of requests

    A method is any nonempty token; the three that the service tells apart have constructors of their
    own. Tokens are compared letter by letter, so `post` is a method that nobody serves.
-/

namespace SignalStub.Http

/-- The characters of tokens. -/
def isTokenChar (c : Char) : Bool :=
  c.isAlphanum || "!#$%&'*+-.^_\x60|~".toList.contains c

/-- Whether a text is a token. -/
def isToken (s : String) : Bool :=
  !s.isEmpty && s.toList.all isTokenChar

/-- The method of a request. -/
inductive Method
  | get
  | head
  | post
  | other (name : String)
  deriving DecidableEq, Repr

/-- The text of a method. -/
def Method.name : Method → String
  | .get => "GET"
  | .head => "HEAD"
  | .post => "POST"
  | .other name => name

/-- Reads a method. -/
def Method.ofName? (name : String) : Option Method :=
  if name = "GET" then some .get
  else if name = "HEAD" then some .head
  else if name = "POST" then some .post
  else if isToken name then some (.other name)
  else none

/-- The longest name that a header can have. -/
def maxHeaderName : Nat := 65535

/-- Whether a text is the name of a header. -/
def isHeaderName (s : String) : Bool :=
  isToken s && s.utf8ByteSize ≤ maxHeaderName

/-- Whether a text can stand as the value of a header: it holds no control but the tab. -/
def isHeaderValue (s : String) : Bool :=
  s.toList.all fun c => c = '\t' || (32 ≤ c.toNat && c.toNat ≠ 127)

end SignalStub.Http
