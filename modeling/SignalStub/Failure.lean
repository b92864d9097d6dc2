import SignalStub.Log.Event

/-! # Coded failures

    A failure that ends the service carries a code. The service has a text for each of its own codes.
    Another code has a text only if it is one of the codes for input and output, which are common to
    all services; every other code is unknown. Making a failure logs its cause.
-/

namespace SignalStub

/-- A failure with a code, a status and a text. -/
structure Failure where
  code : String
  status : Nat
  message : String
  deriving DecidableEq, Repr

namespace Failure

/-- The code for settings that cannot be loaded. -/
def settingsCode : String := "ERR-SETTINGS"

/-- The code for an address that cannot be listened on. -/
def bindCode : String := "ERR-BIND"

/-- The code for a server that stops by itself. -/
def serveCode : String := "ERR-SERVE"

/-- The code for traces that cannot be reported. -/
def telemetryCode : String := "ERR-TELEMETRY"

/-- The codes of the service with their texts. -/
def ownTexts : List (String × String) :=
  [(settingsCode, "failed to load settings"),
    (bindCode, "failed to bind http listener"),
    (serveCode, "http server exited with an error"),
    (telemetryCode, "failed to initialize telemetry exporter")]

/-- Codes that are common to all services, with their texts. -/
def commonTexts : List (String × String) :=
  [("ER-IO-NOTFOUND", "File not found: [err]"),
    ("ER-IO-ADDRINUSE", "Address in use: [err]")]

/-- The text for a code. -/
def messageOf (code : String) : String :=
  match (ownTexts ++ commonTexts).lookup code with
  | some message => message
  | none => "unknown error: " ++ code

/-- The failure with a code. Every failure is one of the server. -/
def ofCode (code : String) : Failure where
  code := code
  status := 500
  message := messageOf code

/-- The event that tells the cause of a failure. -/
def event (code cause : String) : Log.Event where
  level := .error
  target := "ceh_signal_mock::prelude"
  message := "err: " ++ cause
  fields := [("code", .text code)]
  spans := []

/-- What is shown of a failure to a person. -/
def display (failure : Failure) : String :=
  "Error " ++ failure.code ++ " with status " ++ failure.status.repr ++ " Internal Server Error"

end Failure

end SignalStub
