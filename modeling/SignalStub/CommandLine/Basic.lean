import SignalStub.Number.Integer
import SignalStub.Settings.Basic

/-! # The command line

    The program has one command, `listen`, which takes a host and a port that override the settings.
    A command line that asks for help, or that is not understood, ends the program with a text.
-/

namespace SignalStub.CommandLine

open Number

/-- What the command `listen` was given. -/
structure ListenArgs where
  host : Option String
  port : Option UInt16
  deriving DecidableEq, Repr

/-- The settings with the given host and port in place of their own. -/
def ListenArgs.apply (args : ListenArgs) (settings : Settings) : Settings :=
  { settings with
    httpHost := args.host.getD settings.httpHost
    httpPort := args.port.getD settings.httpPort }

/-- The options that take a value. -/
inductive Opt
  | host
  | port
  deriving DecidableEq, Repr

/-- An option with the name of its value. -/
def Opt.usage : Opt → String
  | .host => "--host <HOST>"
  | .port => "--port <PORT>"

/-- The part of the command line that help is about. -/
inductive Topic
  | program
  | listen
  | help
  deriving DecidableEq, Repr

/-- Why the text given for a port is no port. -/
inductive PortFault
  | integer (fault : IntegerFault)
  | outOfRange (value : Int)
  deriving DecidableEq, Repr

/-- The text of a fault. -/
def PortFault.message : PortFault → String
  | .integer fault => fault.message
  | .outOfRange value => integerText value ++ " is not in 0..=65535"

/-- Reads a port. -/
def readPort (s : String) : Except PortFault UInt16 :=
  match readInt64 s.toList with
  | .error fault => .error (.integer fault)
  | .ok n =>
    if 0 ≤ n && n < UInt16.size then .ok (UInt16.ofNat n.toNat) else .error (.outOfRange n)

/-- What the author of an unknown argument may have meant. -/
inductive Hint
  /-- An argument of the same command. -/
  | argument (name : String)
  /-- An argument of a command that is named later. -/
  | inCommand (command argument : String)
  deriving DecidableEq, Repr

/-- Why a command line is not understood. -/
inductive UsageFault
  | invalidPort (value : String) (fault : PortFault)
  | missingValue (opt : Opt)
  /-- An argument that nothing expects; `given` are the options before it. -/
  | unexpectedArgument (topic : Topic) (argument : String) (hint : Option Hint) (given : List String)
  /-- A value for a flag that takes none. -/
  | unexpectedValue (topic : Topic) (value : String) (given : List String)
  | repeated (opt : Opt)
  /-- A word in the place of a command. -/
  | unknownCommand (topic : Topic) (word : String) (similar : List String)
  /-- A command behind the mark after which no command is looked for. -/
  | commandAfterDashes (word : String)
  deriving DecidableEq, Repr

/-- Why the program ends before it does anything. -/
inductive Stop
  | help (topic : Topic)
  | usage (fault : UsageFault)
  deriving DecidableEq, Repr

end SignalStub.CommandLine
