import SignalStub.Http.Message

/-! # Messages on a connection

    A request arrives as a head of lines and a body whose length a header gives. A response leaves as
    a status line, header lines, a blank line and its body.
-/

namespace SignalStub.Http

/-! ## Responses -/

/-- The words for the statuses that the service answers with. -/
def reason : Nat → String
  | 200 => "OK"
  | 400 => "Bad Request"
  | 404 => "Not Found"
  | 405 => "Method Not Allowed"
  | 431 => "Request Header Fields Too Large"
  | _ => "Internal Server Error"

namespace Response

/-- The first line of a response. -/
def statusLine (response : Response) : String :=
  "HTTP/1.1 " ++ response.status.repr ++ " " ++ reason response.status

/-- The header lines of a response on a connection that is closed behind it. -/
def headerLines (response : Response) : List String :=
  (response.headers ++ [("connection", "close")]).map fun (name, value) => name ++ ": " ++ value

/-- A response as it is written to a connection. -/
def wire (response : Response) : String :=
  "\r\n".intercalate (response.statusLine :: response.headerLines) ++ "\r\n\r\n" ++ response.body

end Response

/-! ## Requests -/

/-- The head of a request: its method, its target and its headers. -/
structure Head where
  method : String
  uri : String
  headers : Headers
  deriving DecidableEq, Repr

namespace Head

/-- Reads the first line of a request. -/
def readFirst? (line : List Char) : Option (String × String) :=
  match line.splitOn ' ' with
  | [method, uri, version] =>
    if version = "HTTP/1.1".toList || version = "HTTP/1.0".toList then
      some (String.ofList method, String.ofList uri)
    else none
  | _ => none

/-- Whether a character is a blank around the value of a header. -/
def isBlank (c : Char) : Bool := c = ' ' || c = '\t'

/-- Reads a header line. -/
def readHeader? (line : List Char) : Option (String × String) :=
  match line.dropWhile (· ≠ ':') with
  | ':' :: value =>
    let value := ((value.dropWhile isBlank).reverse.dropWhile isBlank).reverse
    some (String.ofList (line.takeWhile (· ≠ ':')), String.ofList value)
  | _ => none

/-- The lines of a text; the carriage return before a line break belongs to neither line. -/
def lines (text : String) : List (List Char) :=
  (text.toList.splitOn '\n').map fun line => if line.getLast? = some '\r' then line.dropLast else line

/-- Reads the lines of a head. -/
def ofLines? : List (List Char) → Option Head
  | [] => none
  | first :: lines =>
    match readFirst? first, lines.mapM readHeader? with
    | some (method, uri), some headers => some { method, uri, headers }
    | _, _ => none

/-- Reads a head without the blank line that ends it. -/
def ofText? (text : String) : Option Head :=
  ofLines? (lines text)

/-- The length of the body that the headers announce. -/
def bodyLength (head : Head) : Nat :=
  match head.headers.find? fun (name, _) => name.toLower == "content-length" with
  | some (_, value) => value.toNat?.getD 0
  | none => 0

end Head

end SignalStub.Http
