/-! # Log events

    A service tells what it does by events. An event has a level, the place in the program that it
    comes from, a message, named fields, and the spans that were open around it, outermost first.
-/

namespace SignalStub.Log

/-- The levels of events, the most important first. -/
inductive Level
  | error
  | warn
  | info
  | debug
  | trace
  deriving DecidableEq, Repr

/-- The name of a level. -/
def Level.name : Level → String
  | .error => "ERROR"
  | .warn => "WARN"
  | .info => "INFO"
  | .debug => "DEBUG"
  | .trace => "TRACE"

/-- The number of a level: the higher, the less important. -/
def Level.rank : Level → Nat
  | .error => 1
  | .warn => 2
  | .info => 3
  | .debug => 4
  | .trace => 5

/-- The value of a field. A console quotes a text and shows everything else as it is. -/
inductive Value
  | text (value : String)
  | shown (value : String)
  deriving DecidableEq, Repr

/-- The value without quotes. -/
def Value.plain : Value → String
  | .text value => value
  | .shown value => value

/-- A number as the value of a field. -/
def Value.ofNat (n : Nat) : Value := .shown n.repr

/-- Named values, in order. -/
abbrev Fields := List (String × Value)

/-- A span that is open around an event. -/
structure Span where
  name : String
  fields : Fields
  deriving DecidableEq, Repr

/-- One event. -/
structure Event where
  level : Level
  /-- The place that the event comes from. -/
  target : String
  message : String
  fields : Fields
  spans : List Span
  deriving DecidableEq, Repr

end SignalStub.Log
