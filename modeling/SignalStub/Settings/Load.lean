import SignalStub.Settings.Basic
import SignalStub.Settings.Field
import SignalStub.Settings.Name
import SignalStub.Settings.Table
import SignalStub.Settings.WritePath

/-! # Loading settings

    The variables are put into a table, and the settings are read from it, one key after the other in
    the order of the structure. Each key that no variable mentions keeps its default. The write path
    is checked when every key has been read.
-/

namespace SignalStub

/-- Variables with their values, in the order in which they were set. -/
abbrev Environment := List (String × String)

namespace Environment

/-- Puts what a variable gives into a table. The letter case of its name does not matter. A path puts
    a table or a sequence under its first key; every other name is a key of its own. -/
def enter (table : Settings.Table) (assignment : String × String) : Settings.Table :=
  let name := Text.lowercase assignment.1
  match Settings.NameShape.ofName name with
  | .value root => table.insert root (.scalar (.read assignment.2))
  | .table root => table.insert root .table
  | .sequence root => table.insert root .sequence
  | .other => table.insert name (.scalar (.read assignment.2))

/-- Puts all variables into a table, in their order. -/
def collect (env : Environment) : Settings.Table :=
  env.foldl enter []

end Environment

namespace Settings

/-- Why settings could not be loaded. -/
inductive Error
  | field (fault : FieldFault)
  | writePath (fault : WritePath.Fault)
  deriving DecidableEq, Repr

/-- The text of an error. -/
def Error.message : Error → String
  | .field fault => fault.message
  | .writePath fault => fault.message

/-- The settings of a service that is told nothing. -/
def default : Settings where
  httpHost := "0.0.0.0"
  httpPort := 5000
  writePath := defaultWritePath
  idSeed := none
  serviceName := "ceh-signal-mock"
  useTelemetry := false
  otlpHost := "localhost"
  otlpPort := 4317

/-- Reads one key, or keeps its default. -/
def readKey {α : Type} (table : Table) (key : String)
    (read : String → Entry → Except FieldFault α) (fallback : α) : Except FieldFault α :=
  match table.lookup? key with
  | some entry => read key entry
  | none => .ok fallback

/-- Reads every key, in the order of the structure. -/
def readTable (table : Table) : Except FieldFault Settings := do
  let httpHost ← readKey table "http_host" readText default.httpHost
  let httpPort ← readKey table "http_port" readPort default.httpPort
  let writePath ← readKey table "write_signal_path" readText default.writePath
  let idSeed ← readKey table "id_seed" (fun key entry => (readSeed key entry).map some) default.idSeed
  let serviceName ← readKey table "service_name" readText default.serviceName
  let useTelemetry ← readKey table "use_telemetry" readBoolean default.useTelemetry
  let otlpHost ← readKey table "otlp_host" readText default.otlpHost
  let otlpPort ← readKey table "otlp_port" readPort default.otlpPort
  return { httpHost, httpPort, writePath, idSeed, serviceName, useTelemetry, otlpHost, otlpPort }

/-- Reads the settings from the variables. -/
def readAll (env : Environment) : Except FieldFault Settings :=
  readTable env.collect

/-- Loads the settings. -/
def load (env : Environment) : Except Error Settings :=
  match readAll env with
  | .error fault => .error (.field fault)
  | .ok settings =>
    match WritePath.check settings.writePath with
    | .error fault => .error (.writePath fault)
    | .ok () => .ok settings

end Settings

end SignalStub
