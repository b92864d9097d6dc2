import SignalStub.Http.Message
import SignalStub.Route.Pattern
import SignalStub.Text.Quoted

/-! # Routers

    A router is a table of paths with the methods that are served on each. An endpoint that serves
    GET also serves HEAD, without the body. Routes are added one at a time; adding to a path that the
    table has already merges the methods, and a path that cannot be added is refused.

    Dispatch compares paths as they are written. A path of the table that serves other methods only
    names them; a path outside the table is answered by nobody.
-/

namespace SignalStub.Route

open Http

/-- A path with the endpoints on it, each under the one method that it was added for. -/
structure Entry (η : Type) where
  path : String
  pieces : List Piece
  endpoints : List (Method × η)

/-- A table of routes, in the order in which the paths were added. -/
structure Router (η : Type) where
  entries : List (Entry η)

/-- Why a route cannot be added. -/
inductive RouteFault
  | emptyPath
  | relativePath
  | pattern (path : String) (fault : PatternFault)
  /-- Another path has a wildcard in the same place. -/
  | conflict (path other : String)
  /-- The method is already served on the path. -/
  | overlap (path : String) (method : Method)
  deriving DecidableEq, Repr

/-- The text of a fault. -/
def RouteFault.message : RouteFault → String
  | .emptyPath => "Paths must start with a `/`. Use \"/\" for root routes"
  | .relativePath => "Paths must start with a `/`"
  | .pattern path fault => "Invalid route " ++ Text.Quoted.text path ++ ": " ++ fault.message
  | .conflict path other =>
    "Invalid route " ++ Text.Quoted.text path ++
      ": insertion failed due to conflict with previously registered route: " ++ other
  | .overlap path method =>
    "Overlapping method route. Handler for `" ++ method.name ++ " " ++ path ++ "` already exists"

namespace Router

variable {η : Type}

/-- The router without routes. -/
def empty : Router η := ⟨[]⟩

/-- Whether two patterns have the same instances, or different wildcards behind the same beginning.
    The names of wildcards do not tell patterns apart. -/
def clash : List Piece → List Piece → Bool
  | [], [] => true
  | .literal c :: ps, .literal d :: qs => c = d && clash ps qs
  | .segment _ :: ps, .segment _ :: qs => clash ps qs
  | .segment _ :: _, .rest _ :: _ => true
  | .rest _ :: _, .segment _ :: _ => true
  | .rest _ :: _, .rest _ :: _ => true
  | _, _ => false

/-- Adds an endpoint to a path that the table has. -/
def merge (method : Method) (endpoint : η) (entry : Entry η) : Except RouteFault (Entry η) :=
  if entry.endpoints.any (·.1 = method) then .error (.overlap entry.path method)
  else .ok { entry with endpoints := entry.endpoints ++ [(method, endpoint)] }

/-- Adds an endpoint to the entry of its path, or a new entry behind the others. -/
def insert (path : String) (pieces : List Piece) (method : Method) (endpoint : η) :
    List (Entry η) → Except RouteFault (List (Entry η))
  | [] => .ok [⟨path, pieces, [(method, endpoint)]⟩]
  | entry :: entries =>
    if entry.path = path then (merge method endpoint entry).map (· :: entries)
    else if clash entry.pieces pieces then .error (.conflict path entry.path)
    else (insert path pieces method endpoint entries).map (entry :: ·)

/-- Adds a route. -/
def route (router : Router η) (path : String) (method : Method) (endpoint : η) :
    Except RouteFault (Router η) :=
  match path.toList with
  | [] => .error .emptyPath
  | c :: _ =>
    if c ≠ '/' then .error .relativePath
    else match Pattern.read path with
      | .error fault => .error (.pattern path fault)
      | .ok pieces => (insert path pieces method endpoint router.entries).map Router.mk

/-- The entry that a path leads to. A path of the table itself comes before every pattern. -/
def lookup? (router : Router η) (path : String) : Option (Entry η) :=
  match router.entries.find? fun entry => Pattern.isLiteral entry.pieces && entry.path == path with
  | some entry => some entry
  | none => router.entries.find? fun entry => Pattern.fits entry.pieces path.toList

end Router

/-! ## Methods -/

/-- The methods that an endpoint serves. -/
def served : Method → List Method
  | .get => [.get, .head]
  | method => [method]

/-- The methods that are served on a path. -/
def Entry.allowed {η : Type} (entry : Entry η) : List Method :=
  entry.endpoints.flatMap fun (method, _) => served method

/-- The endpoint for a method. HEAD falls back to the endpoint for GET. -/
def Entry.endpoint? {η : Type} (entry : Entry η) (method : Method) : Option η :=
  match entry.endpoints.find? fun (added, _) => added == method with
  | some (_, endpoint) => some endpoint
  | none =>
    if method = .head then (entry.endpoints.find? fun (added, _) => added == .get).map (·.2)
    else none

/-! ## Dispatch -/

/-- Who answers a request. -/
inductive Dispatch (η : Type)
  | endpoint (endpoint : η)
  | methodNotAllowed (allowed : List Method)
  | unmatched
  deriving DecidableEq, Repr

/-- Looks the target of a request up. -/
def Router.dispatch {η : Type} (router : Router η) (method : Method) (path : String) :
    Dispatch η :=
  match router.lookup? path with
  | none => .unmatched
  | some entry =>
    match entry.endpoint? method with
    | some endpoint => .endpoint endpoint
    | none => .methodNotAllowed entry.allowed

end SignalStub.Route
