import SignalStub.Text.Quoted

/-! # The write path

    The write path is served exactly as it is written, so it has to be absolute, free of every
    character with a meaning to the router, and different from the probes' paths. The faults are
    looked for in this order.
-/

namespace SignalStub

/-- The path of the liveness probe. -/
def livezPath : String := "/livez/"

/-- The path of the health probe. -/
def healthzPath : String := "/healthz/"

/-- The write path of a service that is not told another. -/
def defaultWritePath : String := "/create-signal/write-signal"

namespace WritePath

/-- Why a text cannot be the write path. -/
inductive Fault
  | relative (path : String)
  | notLiteral (found : Char) (path : String)
  | reserved (path : String)
  deriving DecidableEq, Repr

/-- The text of a fault. It quotes the path, so it stays on one line. -/
def Fault.message : Fault → String
  | .relative path => "WRITE_SIGNAL_PATH must start with '/', got " ++ Text.Quoted.text path
  | .notLiteral found path =>
    "WRITE_SIGNAL_PATH may only contain literal segments, found " ++ Text.Quoted.char found ++
      " in " ++ Text.Quoted.text path
  | .reserved path =>
    "WRITE_SIGNAL_PATH " ++ Text.Quoted.text path ++ " collides with a probe route"

/-- The characters that stand for themselves in every route. -/
def isLiteral (c : Char) : Bool :=
  c.isAlphanum || c = '.' || c = '_' || c = '~' || c = '/' || c = '-'

/-- Whether a path begins at the root. -/
def isAbsolute (path : String) : Bool :=
  path.toList.head? == some '/'

/-- Accepts the paths that can be served as the write path. -/
def check (path : String) : Except Fault Unit :=
  if !isAbsolute path then .error (.relative path)
  else match path.toList.find? fun c => !isLiteral c with
    | some c => .error (.notLiteral c path)
    | none => if path = livezPath || path = healthzPath then .error (.reserved path) else .ok ()

end WritePath

end SignalStub
