import SignalStub.CommandLine.Parse
import SignalStub.CommandLine.Report
import SignalStub.Log.Console
import SignalStub.Log.Filter
import SignalStub.Stub.Listen

/-! # The program

    The program goes through its stages in a fixed order: it loads the settings, sets up its traces,
    reads its arguments, and runs the command. Each stage can end it, and the earliest that does
    decides everything that is seen: the exit code, the lines on standard output and the text on
    standard error.
-/

namespace SignalStub.Program

open CommandLine Http Log

/-! ## Stages -/

/-- The variable that holds the filter for events. -/
def filterVariable : String := "RUST_LOG"

/-- The value of a variable that is looked for by its exact name. -/
def exactValue? (env : Environment) (name : String) : Option String :=
  (env.reverse.find? fun (known, _) => known == name).map (·.2)

/-- The filter that the variables ask for. -/
def filterOf (env : Environment) : Filter :=
  .ofVariable (exactValue? env filterVariable)

/-- What setting up the export of traces comes to: a cause, if it fails. The exporter sees the settings
    and may have variables of its own. -/
abbrev Exporter := Environment → Settings → Option String

/-- An exporter that fails if the address for the traces is no request target, and has no variables
    of its own. -/
def Exporter.byEndpoint : Exporter := fun _ settings =>
  match Uri.read settings.otlpEndpoint with
  | .error fault =>
    some ("Exporter otlp encountered the following error(s): invalid URI " ++ fault.message)
  | .ok _ => none

/-- Why traces cannot be reported. Without telemetry the exporter has no part in the run. -/
def telemetryFault? (exporter : Exporter) (env : Environment) (settings : Settings) : Option String :=
  if settings.useTelemetry then exporter env settings else none

/-- The event of traces that are reported. -/
def telemetryEvent (settings : Settings) : Event where
  level := .info
  target := "ceh_signal_mock::pkg::telemetry"
  message := "otlp export enabled"
  fields := [("endpoint", .shown settings.otlpEndpoint)]
  spans := []

/-- The event of a command line without a command. -/
def noCommandEvent : Event where
  level := .error
  target := "ceh_signal_mock::cmd"
  message := "no subcommand passed"
  fields := []
  spans := []

/-- How the program ends. -/
inductive Finish
  | completed
  | failed (failure : Failure)
  | stopped (stop : Stop)
  | unroutable (fault : Route.RouteFault)
  | killed (signal : ShutdownSignal)
  deriving DecidableEq, Repr

/-- A run of the program. -/
structure Outcome where
  finish : Finish
  events : List Event
  exchanges : List Exchange
  deriving DecidableEq, Repr

/-- A failure that ends the program, logged with its cause. -/
def fail (code cause : String) : Outcome where
  finish := .failed (.ofCode code)
  events := [Failure.event code cause]
  exchanges := []

/-- How the program ends when a run of the service has ended. -/
def Finish.ofEnding : Ending → Finish
  | .stopped => .completed
  | .failed failure => .failed failure
  | .unroutable fault => .unroutable fault
  | .killed signal => .killed signal

/-- The outcome of a run of the service. -/
def Outcome.ofRun (run : Run) : Outcome where
  finish := .ofEnding run.ending
  events := run.events
  exchanges := run.exchanges

/-- The outcome with events that came before it. -/
def Outcome.after (outcome : Outcome) (events : List Event) : Outcome :=
  { outcome with events := events ++ outcome.events }

/-- What the variables and the arguments decide, before the machine is asked for anything. -/
inductive Plan
  /-- The program ends at once. -/
  | finish (outcome : Outcome)
  /-- The service runs with these settings, after these events. -/
  | serve (settings : Settings) (events : List Event)
  deriving DecidableEq, Repr

/-- The events of setting up the traces. -/
def telemetryEvents (settings : Settings) : List Event :=
  if settings.useTelemetry then [telemetryEvent settings] else []

/-- What the arguments decide, once the settings are loaded and the traces are set up. -/
def planCommand (settings : Settings) (args : List String) : Plan :=
  let events := telemetryEvents settings
  match CommandLine.parse args with
  | .error stop => .finish { finish := .stopped stop, events, exchanges := [] }
  | .ok none => .finish { finish := .completed, events := events ++ [noCommandEvent], exchanges := [] }
  | .ok (some args) => .serve (args.apply settings) events

/-- Goes through the stages before the service runs. -/
def plan (env : Environment) (args : List String) (exporter : Exporter := .byEndpoint) : Plan :=
  match Settings.load env with
  | .error error => .finish (fail Failure.settingsCode error.message)
  | .ok settings =>
    match telemetryFault? exporter env settings with
    | some cause => .finish (fail Failure.telemetryCode cause)
    | none => planCommand settings args

/-- Runs the program. -/
def run (machine : Machine) (env : Environment) (args : List String) (drafts : List Draft)
    (signal : ShutdownSignal) (exporter : Exporter := .byEndpoint) : Outcome :=
  match plan env args exporter with
  | .finish outcome => outcome
  | .serve settings events => (Outcome.ofRun (listen machine settings drafts signal)).after events

/-! ## What is seen of a run -/

/-- The exit code. -/
def Finish.exitCode : Finish → Nat
  | .completed => 0
  | .failed _ => 1
  | .stopped (.help _) => 0
  | .stopped (.usage _) => 2
  | .unroutable _ => 101
  | .killed signal => 128 + signal.number

/-- The text of a failure on standard error. -/
def failureText (failure : Failure) : String :=
  "Error: StandardError \x7b err_code: " ++ Text.Quoted.text failure.code ++ ", status_code: " ++
    failure.status.repr ++ ", values: \x7b\x7d, message: " ++ Text.Quoted.text failure.message ++
    ", html: None \x7d\n"

/-- What is written to standard error. -/
def Finish.stderr : Finish → String
  | .completed => ""
  | .failed failure => failureText failure
  | .stopped (.help _) => ""
  | .stopped (.usage fault) => fault.report
  | .unroutable fault => fault.message ++ "\n"
  | .killed _ => ""

/-- The help that is written to standard output. -/
def Finish.help : Finish → String
  | .stopped (.help topic) => topic.helpText
  | _ => ""

/-- The lines of a text that ends with a line break. -/
def linesOf (text : String) : List String :=
  ((text.toList.splitOn '\n').dropLast).map String.ofList

/-- The lines on standard output: the events that the filter shows, then the help. -/
def Outcome.stdout (outcome : Outcome) (filter : Filter) : List String :=
  (outcome.events.filter filter.shows).map Event.line ++ linesOf outcome.finish.help

end SignalStub.Program
