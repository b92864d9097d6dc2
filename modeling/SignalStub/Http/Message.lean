import SignalStub.Http.Method
import SignalStub.Http.Uri
import SignalStub.Text.Document

/-! # Requests and responses -/

namespace SignalStub.Http

/-- Named texts. -/
abbrev Headers := List (String × String)

/-- A request. -/
structure Request where
  method : Method
  uri : Uri
  headers : Headers
  body : String
  deriving DecidableEq, Repr

/-- Why a request cannot be made. -/
inductive RequestFault
  | method
  | uri (fault : UriFault)
  | headerName
  | headerValue
  deriving DecidableEq, Repr

/-- The text of a fault. -/
def RequestFault.message : RequestFault → String
  | .method => "invalid HTTP method"
  | .uri fault => fault.message
  | .headerName => "invalid HTTP header name"
  | .headerValue => "failed to parse header value"

/-- Accepts the headers of a request, one after the other. -/
def checkHeaders : Headers → Except RequestFault Unit
  | [] => .ok ()
  | (name, value) :: rest =>
    if !isHeaderName name then .error .headerName
    else if !isHeaderValue value then .error .headerValue
    else checkHeaders rest

/-- Makes a request. The method is looked at first, then the target, then the headers. -/
def Request.make (method uri : String) (headers : Headers) (body : String) :
    Except RequestFault Request :=
  match Method.ofName? method with
  | none => .error .method
  | some method =>
    match Uri.read uri with
    | .error fault => .error (.uri fault)
    | .ok uri =>
      match checkHeaders headers with
      | .error fault => .error fault
      | .ok () => .ok { method, uri, headers, body }

/-- A response. -/
structure Response where
  status : Nat
  headers : Headers
  body : String
  deriving DecidableEq, Repr

namespace Response

/-- A response without a body. -/
def empty (status : Nat) (headers : Headers) : Response where
  status := status
  headers := headers ++ [("content-length", "0")]
  body := ""

/-- A response with a document as its body. -/
def document (status : Nat) (document : Document) : Response :=
  let body := document.render
  { status
    headers := [("content-length", body.utf8ByteSize.repr), ("content-type", "application/json")]
    body }

/-- The response without its body. The headers still describe the body that is left out. -/
def withoutBody (response : Response) : Response :=
  { response with body := "" }

end Response

end SignalStub.Http
