import SignalStub.CommandLine.Basic

/-! # Texts of the command line

    The help texts, and what is told about a command line that is not understood: a headline that
    names the fault, perhaps a tip, the usage if it helps, and where to find more.
-/

namespace SignalStub.CommandLine

/-- The name that the program is called by. -/
def programName : String := "ceh-signal-mock"

/-- The words before the arguments of a topic. -/
def Topic.words : Topic → String
  | .program => programName
  | .listen => programName ++ " listen"
  | .help => programName ++ " help"

/-- The usage of a topic. -/
def Topic.usage : Topic → String
  | .program => "Usage: " ++ programName ++ " [COMMAND]"
  | .listen => "Usage: " ++ programName ++ " listen [OPTIONS]"
  | .help => "Usage: " ++ programName ++ " help [COMMAND]..."

/-- The help about a topic. -/
def Topic.helpText : Topic → String
  | .program =>
    "mock of the ceh create-signal endpoint\n\n" ++ Topic.program.usage ++
      "\n\nCommands:\n  listen  \n" ++
      "  help    Print this message or the help of the given subcommand(s)\n\n" ++
      "Options:\n  -h, --help  Print help\n"
  | .listen =>
    Topic.listen.usage ++ "\n\nOptions:\n" ++
      "      --host <HOST>  Overrides HTTP_HOST\n" ++
      "  -p, --port <PORT>  Overrides HTTP_PORT\n" ++
      "  -h, --help         Print help\n"
  | .help =>
    "Print this message or the help of the given subcommand(s)\n\n" ++ Topic.help.usage ++
      "\n\nArguments:\n  [COMMAND]...  Print help for the subcommand(s)\n"

/-- The usage of a topic with some arguments given. -/
def Topic.usageWith (topic : Topic) (given : List String) : String :=
  if given.isEmpty then topic.usage
  else "Usage: " ++ " ".intercalate (topic.words :: given)

namespace UsageFault

/-- The headline of a fault. -/
def headline : UsageFault → String
  | .invalidPort value fault =>
    "error: invalid value '" ++ value ++ "' for '" ++ Opt.port.usage ++ "': " ++ fault.message
  | .missingValue opt =>
    "error: a value is required for '" ++ opt.usage ++ "' but none was supplied"
  | .unexpectedArgument _ argument _ _ => "error: unexpected argument '" ++ argument ++ "' found"
  | .unexpectedValue _ value _ =>
    "error: unexpected value '" ++ value ++ "' for '--help' found; no more were expected"
  | .repeated opt =>
    "error: the argument '" ++ opt.usage ++ "' cannot be used multiple times"
  | .unknownCommand _ word _ => "error: unrecognized subcommand '" ++ word ++ "'"
  | .commandAfterDashes word => "error: unexpected argument '" ++ word ++ "' found"

/-- The tip for a fault, on lines of its own. -/
def tip : UsageFault → String
  | .unexpectedArgument _ _ (some (.argument name)) _ =>
    "\n\n  tip: a similar argument exists: '" ++ name ++ "'"
  | .unexpectedArgument _ _ (some (.inCommand command argument)) _ =>
    "\n\n  tip: '" ++ command ++ " " ++ argument ++ "' exists"
  | .unknownCommand _ _ [similar] =>
    "\n\n  tip: a similar subcommand exists: '" ++ similar ++ "'"
  | .unknownCommand _ _ (similar :: others) =>
    "\n\n  tip: some similar subcommands exist: " ++
      ", ".intercalate ((similar :: others).map fun word => "'" ++ word ++ "'")
  | .commandAfterDashes word =>
    "\n\n  tip: subcommand '" ++ word ++ "' exists; to use it, remove the '--' before it"
  | _ => ""

/-- The usage that is shown for a fault. -/
def usage : UsageFault → String
  | .invalidPort _ _ | .missingValue _ => ""
  | .unexpectedArgument topic _ _ given => "\n\n" ++ topic.usageWith given
  | .unexpectedValue topic _ given => "\n\n" ++ topic.usageWith given
  | .repeated _ => "\n\n" ++ Topic.listen.usage
  | .unknownCommand topic _ _ => "\n\n" ++ topic.usage
  | .commandAfterDashes _ => "\n\n" ++ Topic.program.usage

/-- Where more is told. There is no more about the command `help`. -/
def more : UsageFault → String
  | .unknownCommand .help _ _ => "\n"
  | _ => "\n\nFor more information, try '--help'.\n"

/-- All that is told about a fault. -/
def report (fault : UsageFault) : String :=
  fault.headline ++ fault.tip ++ fault.usage ++ fault.more

end UsageFault

end SignalStub.CommandLine
