import SignalStub.CommandLine.Basic
import SignalStub.CommandLine.Similarity

/-! # Reading the command line

    The arguments are read from left to right. The value of an option is its attached text or the
    next argument that does not look like an option. It is stored when the next known option, or the
    end, is reached: an option without a value, a second value for one option and a port that is none
    are noticed then, in this order. An unknown argument is noticed at once.
-/

namespace SignalStub.CommandLine

/-! ## Arguments by their looks -/

/-- How an argument looks. -/
inductive Token
  /-- The mark `--`, after which nothing is an option. -/
  | dashes
  /-- A long option, perhaps with an attached value. -/
  | long (name : String) (value : Option String)
  /-- One or more short options behind one dash. -/
  | short (first : Char) (rest : List Char)
  | plain
  deriving DecidableEq, Repr

/-- Splits a text at its first equals sign. -/
def splitAssignment (cs : List Char) : String × Option String :=
  match cs.dropWhile (· ≠ '=') with
  | [] => (String.ofList cs, none)
  | _ :: value => (String.ofList (cs.takeWhile (· ≠ '=')), some (String.ofList value))

/-- Looks at an argument. -/
def Token.ofArgument (argument : String) : Token :=
  match argument.toList with
  | '-' :: '-' :: [] => .dashes
  | '-' :: '-' :: cs => .long (splitAssignment cs).1 (splitAssignment cs).2
  | '-' :: c :: cs => .short c cs
  | _ => .plain

/-- A value attached to a short option, perhaps behind an equals sign. -/
def attachedValue : List Char → String
  | '=' :: cs => String.ofList cs
  | cs => String.ofList cs

/-! ## The command `listen` -/

/-- The option that was read last, while its value is not stored. -/
inductive Pending
  | none
  | awaiting (opt : Opt)
  | filled (opt : Opt) (value : String)
  deriving DecidableEq, Repr

/-- What is read of the arguments of `listen`. -/
structure ListenScan where
  args : ListenArgs
  pending : Pending
  /-- The options whose values are stored, in order. -/
  stored : List Opt
  deriving DecidableEq, Repr

namespace ListenScan

/-- Nothing is read yet. -/
def start : ListenScan := ⟨⟨none, none⟩, .none, []⟩

/-- Stores a value. -/
def store (scan : ListenScan) : Opt → String → Except UsageFault ListenScan
  | .host, value =>
    if scan.args.host.isSome then .error (.repeated .host)
    else .ok { scan with
      args := { scan.args with host := some value }, stored := scan.stored ++ [.host] }
  | .port, value =>
    if scan.args.port.isSome then .error (.repeated .port)
    else match readPort value with
      | .error fault => .error (.invalidPort value fault)
      | .ok port => .ok { scan with
          args := { scan.args with port := some port }, stored := scan.stored ++ [.port] }

/-- Stores the value of the option that was read last. -/
def settle (scan : ListenScan) : Except UsageFault ListenScan :=
  match scan.pending with
  | .none => .ok scan
  | .awaiting opt => .error (.missingValue opt)
  | .filled opt value => ({ scan with pending := .none }).store opt value

/-- An option whose value may follow. -/
def await (scan : ListenScan) (opt : Opt) : Except UsageFault ListenScan :=
  scan.settle.map fun scan => { scan with pending := .awaiting opt }

/-- An option with its value attached. -/
def attach (scan : ListenScan) (opt : Opt) (value : String) : Except UsageFault ListenScan :=
  match scan.settle with
  | .ok scan => scan.store opt value
  | .error fault => .error fault

/-- The options that were given, as they are shown in a usage line. -/
def given (scan : ListenScan) : List String := scan.stored.map Opt.usage

/-- The option with a long name. -/
def longOpt? (name : String) : Option Opt :=
  if name = "host" then some .host else if name = "port" then some .port else none

/-- An unknown long option. The most similar known one is offered. -/
def unknownLong (scan : ListenScan) (name : String) : UsageFault :=
  match (Similarity.similarTo name ["host", "port", "help"]).getLast? with
  | some similar =>
    let shown := match longOpt? similar with
      | some opt => opt.usage
      | none => "--help"
    let given := if scan.given.contains shown then scan.given else scan.given ++ [shown]
    .unexpectedArgument .listen ("--" ++ name) (some (.argument ("--" ++ similar))) given
  | none => .unexpectedArgument .listen ("--" ++ name) none scan.given

/-- A request for help ends the reading, unless the option before it has a fault. -/
def help (scan : ListenScan) : Stop :=
  match scan.settle with
  | .ok _ => .help .listen
  | .error fault => .usage fault

/-- An argument that is no option is the value of an option that awaits one. -/
def plain (scan : ListenScan) (argument : String) : Except UsageFault ListenScan :=
  match scan.pending with
  | .awaiting opt => .ok { scan with pending := .filled opt argument }
  | _ => .error (.unexpectedArgument .listen argument none [])

/-- Reads one argument. -/
def next (scan : ListenScan) (argument : String) : Except Stop ListenScan :=
  match Token.ofArgument argument with
  | .dashes => .ok scan
  | .long name value =>
    match longOpt? name, value with
    | some opt, some value => (scan.attach opt value).mapError .usage
    | some opt, none => (scan.await opt).mapError .usage
    | none, value =>
      if name = "help" then
        match value with
        | none => .error scan.help
        | some value => .error (.usage (.unexpectedValue .listen value (scan.given ++ ["--help"])))
      else .error (.usage (scan.unknownLong name))
  | .short c cs =>
    if c = 'p' then
      (if cs.isEmpty then scan.await .port else scan.attach .port (attachedValue cs)).mapError .usage
    else if c = 'h' then .error scan.help
    else .error (.usage (.unexpectedArgument .listen ("-" ++ String.singleton c) none []))
  | .plain => (scan.plain argument).mapError .usage

/-- Reads the arguments of `listen`. Behind the mark `--` nothing is expected. -/
def run : ListenScan → List String → Except Stop ListenArgs
  | scan, [] => (scan.settle.map ListenScan.args).mapError .usage
  | scan, argument :: rest =>
    if argument = "--" then
      match rest with
      | [] => (scan.settle.map ListenScan.args).mapError .usage
      | extra :: _ => .error (.usage (.unexpectedArgument .listen extra none []))
    else
      match scan.next argument with
      | .ok scan => scan.run rest
      | .error stop => .error stop

end ListenScan

/-! ## The program -/

/-- The help that the command `help` is asked for. -/
def helpAbout : List String → Stop
  | [] => .help .program
  | word :: rest =>
    if word = "listen" then deeper .listen rest
    else if word = "help" then deeper .help rest
    else .usage (.unknownCommand .program word [])
where
  /-- Below a command there are no further commands. -/
  deeper (topic : Topic) : List String → Stop
    | [] => .help topic
    | word :: _ => .usage (.unknownCommand topic word [])

/-- An unknown long option of the program, before the arguments `rest`. An option of a command that
    follows is offered if no option of the program is similar. -/
def unknownLong (name : String) (rest : List String) : UsageFault :=
  match (Similarity.similarTo name ["help"]).getLast? with
  | some similar =>
    .unexpectedArgument .program ("--" ++ name) (some (.argument ("--" ++ similar))) ["--help"]
  | none =>
    match (Similarity.similarTo name ["host", "port", "help"]).getLast? with
    | some similar =>
      let hint := if rest.contains "listen" then some (.inCommand "listen" ("--" ++ similar)) else none
      .unexpectedArgument .program ("--" ++ name) hint []
    | none => .unexpectedArgument .program ("--" ++ name) none []

/-- A word that is no command. -/
def unknownCommand (word : String) : UsageFault :=
  .unknownCommand .program word (Similarity.similarTo word ["listen", "help"])

/-- Behind the mark `--` no command is found. -/
def afterDashes : List String → Except Stop (Option ListenArgs)
  | [] => .ok none
  | word :: _ =>
    if word = "listen" || word = "help" then .error (.usage (.commandAfterDashes word))
    else .error (.usage (unknownCommand word))

/-- Reads the arguments behind the name of the program: the command with its arguments, or none. -/
def parse : List String → Except Stop (Option ListenArgs)
  | [] => .ok none
  | argument :: rest =>
    if argument = "listen" then (ListenScan.start.run rest).map some
    else if argument = "help" then .error (helpAbout rest)
    else match Token.ofArgument argument with
      | .dashes => afterDashes rest
      | .long name value =>
        if name = "help" then
          match value with
          | none => .error (.help .program)
          | some value => .error (.usage (.unexpectedValue .program value ["--help"]))
        else .error (.usage (unknownLong name rest))
      | .short c _ =>
        if c = 'h' then .error (.help .program)
        else .error (.usage (.unexpectedArgument .program ("-" ++ String.singleton c) none []))
      | .plain => .error (.usage (unknownCommand argument))

end SignalStub.CommandLine
