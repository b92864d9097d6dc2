import SignalStub.Log.Event
import SignalStub.Number.Integer

/-! # Which events are shown

    A filter is a list of directives with commas between them. A directive is a level for all events,
    or it names a target, a span with a field in braces, or both, with a level of its own behind an
    equals sign. The directive with the longest target that an event's target begins with decides
    about the event; a directive for a span can only let more events through.
-/

namespace SignalStub.Log

/-- The least important level that is shown, or none. -/
abbrev Threshold := Option Level

/-- Whether a threshold lets a level through. -/
def Level.passes (level : Level) : Threshold → Bool
  | none => false
  | some least => level.rank ≤ least.rank

/-- What a directive asks of a field: its name, and perhaps its value. -/
structure FieldPattern where
  name : String
  value : Option String
  deriving DecidableEq, Repr

/-- One directive of a filter. -/
structure Directive where
  target : Option String
  span : Option String
  field : Option FieldPattern
  threshold : Threshold
  deriving DecidableEq, Repr

namespace Directive

/-! ## Reading a directive -/

/-- The threshold with a number: zero lets nothing through. -/
def ofNumber? : Int → Option Threshold
  | 0 => some none
  | 1 => some (some .error)
  | 2 => some (some .warn)
  | 3 => some (some .info)
  | 4 => some (some .debug)
  | 5 => some (some .trace)
  | _ => none

/-- The threshold with a name, in any letter case. -/
def ofWord? (cs : List Char) : Option Threshold :=
  match String.ofList (cs.map Char.toLower) with
  | "off" => some none
  | "error" => some (some .error)
  | "warn" => some (some .warn)
  | "info" => some (some .info)
  | "debug" => some (some .debug)
  | "trace" => some (some .trace)
  | _ => none

/-- Reads a threshold, by its number without a minus sign or by its name. -/
def readThreshold? (cs : List Char) : Option Threshold :=
  match cs.head?, Number.readInt64 cs with
  | some '-', _ => none
  | _, .ok n => ofNumber? n
  | _, .error _ => ofWord? cs

/-- A blank, which does not count at the ends of a directive. -/
def isBlank (c : Char) : Bool :=
  c = ' ' || (9 ≤ c.toNat && c.toNat ≤ 13)

/-- The characters that a target begins with. Every character beyond ASCII counts as a letter. -/
def isTargetStart (c : Char) : Bool :=
  c.isAlphanum || c = '_' || c = ':' || c = '-' || 128 ≤ c.toNat

/-- A directive while it is read. Its marks are looked for between the blanks around it, and its
    parts are cut from the whole text, counted from its beginning. -/
structure Reader where
  text : List Char
  /-- The text without the blanks around it. -/
  body : List Char

namespace Reader

/-- The reader of a text. -/
def ofText (text : List Char) : Reader where
  text := text
  body := ((text.dropWhile isBlank).reverse.dropWhile isBlank).reverse

/-- The part between two places. -/
def part (reader : Reader) (first last : Nat) : List Char :=
  (reader.text.take last).drop first

/-- The first place from another on that holds one of some marks, or the end. -/
def find (reader : Reader) (start : Nat) (isMark : Char → Bool) : Nat :=
  start + ((reader.body.drop start).takeWhile fun c => !isMark c).length

/-- The threshold behind an equals sign. Without one every level is let through. -/
def level? (reader : Reader) (start : Nat) : Option Threshold :=
  let level := reader.text.drop start
  if level.isEmpty then some (some .trace) else readThreshold? level

/-- The threshold behind the brackets of a span. -/
def afterSpan? (reader : Reader) (start : Nat) : Option Threshold :=
  match reader.body.drop start with
  | [] => some (some .trace)
  | '=' :: _ => reader.level? (start + 1)
  | _ => none

/-- The pattern of a field: a name, perhaps with an equals sign and a value. -/
def fieldPattern (cs : List Char) : FieldPattern where
  name := String.ofList (cs.takeWhile (· ≠ '='))
  value := match cs.dropWhile (· ≠ '=') with
    | [] => none
    | _ :: value => some (String.ofList (value.takeWhile (· ≠ '=')))

/-- Reads a directive from its opening bracket on, behind a target if it has one. -/
def span? (reader : Reader) (target : Option String) (start : Nat) : Option Directive :=
  let stop := reader.find start fun c => c = ']' || c = '\x7b'
  let name := String.ofList (reader.part start stop)
  match reader.body.drop stop with
  | ']' :: _ => (reader.afterSpan? (stop + 1)).map fun threshold =>
    { target, span := some name, field := none, threshold }
  | '\x7b' :: _ =>
    let close := reader.find (stop + 1) (· = '\x7d')
    let field := reader.part (stop + 1) close
    match reader.body.drop close with
    | '\x7d' :: ']' :: _ =>
      if field.isEmpty then none
      else (reader.afterSpan? (close + 2)).map fun threshold =>
        { target, span := if name.isEmpty then none else some name,
          field := some (fieldPattern field), threshold }
    | _ => none
  | _ => none

/-- A text without marks is a level, or else a target of which every level is let through. -/
def levelOrTarget (reader : Reader) : Directive :=
  match readThreshold? reader.text with
  | some threshold => { target := none, span := none, field := none, threshold }
  | none =>
    { target := some (String.ofList reader.text), span := none, field := none,
      threshold := some .trace }

end Reader

/-- Reads a directive. -/
def read? (s : String) : Option Directive :=
  let reader := Reader.ofText s.toList
  match reader.body with
  | [] => none
  | c :: _ =>
    if c = '[' then reader.span? none 1
    else if !isTargetStart c then none
    else
      let stop := reader.find 0 fun c => c = '=' || c = '['
      let target := some (String.ofList (reader.part 0 stop))
      match reader.body.drop stop with
      | [] => some reader.levelOrTarget
      | '[' :: _ => reader.span? target (stop + 1)
      | _ => (reader.level? (stop + 1)).map fun threshold =>
        { target, span := none, field := none, threshold }

/-! ## What a directive is about -/

/-- Whether a directive is about a target. -/
def concerns (directive : Directive) (target : String) : Bool :=
  match directive.target with
  | none => true
  | some start => start.toList.isPrefixOf target.toList

/-- Whether a directive is about events as such. One with a span or with the value of a field is
    about what happens inside of spans. -/
def isPlain (directive : Directive) : Bool :=
  directive.span.isNone && (directive.field.bind FieldPattern.value).isNone

/-- Whether an event has the field that a directive asks for. Its message counts as one. -/
def hasField (directive : Directive) (event : Event) : Bool :=
  match directive.field with
  | none => true
  | some field => field.name == "message" || event.fields.any fun (name, _) => name == field.name

/-- Whether a span has the name and the field that a directive asks for. -/
def describes (directive : Directive) (span : Span) : Bool :=
  (directive.span.all fun name => name == span.name) &&
    directive.field.all fun field => span.fields.any fun (name, value) =>
      name == field.name && field.value.all fun wanted => wanted == value.plain

/-- How closely a directive describes its events. A longer target counts before a field. -/
def weight (directive : Directive) : Nat :=
  let target := match directive.target with
    | none => 0
    | some target => target.length + 1
  2 * target + if directive.field.isSome then 1 else 0

end Directive

/-- A filter: its directives in the order in which they are written. -/
structure Filter where
  directives : List Directive
  deriving DecidableEq, Repr

namespace Filter

/-- The filter of a service that is not told another. -/
def default : Filter := ⟨[{ target := none, span := none, field := none, threshold := some .info }]⟩

/-- Splits a text at its commas and drops empty pieces. -/
def pieces (cs : List Char) : List String :=
  ((cs.splitOn ',').filter (!·.isEmpty)).map String.ofList

/-- Reads a filter; one faulty directive spoils it. -/
def read? (s : String) : Option Filter :=
  ((pieces s.toList).mapM Directive.read?).map Filter.mk

/-- The filter for a variable that may be missing or faulty. -/
def ofVariable (value : Option String) : Filter :=
  (value.bind read?).getD default

/-- Of two directives the one that describes its events more closely, or else the second. -/
def closer (best : Option Directive) (directive : Directive) : Option Directive :=
  match best with
  | none => some directive
  | some known => if directive.weight < known.weight then some known else some directive

/-- The directive that decides about an event as such. -/
def deciding? (filter : Filter) (event : Event) : Option Directive :=
  (filter.directives.filter fun directive =>
    directive.isPlain && directive.concerns event.target && directive.hasField event).foldl closer none

/-- Whether a directive lets an event through because of a span around it. -/
def lettingBySpan (event : Event) (directive : Directive) : Bool :=
  (directive.span.isSome || directive.field.isSome) && directive.concerns event.target &&
    event.level.passes directive.threshold && event.spans.any directive.describes

/-- Whether an event is shown. -/
def shows (filter : Filter) (event : Event) : Bool :=
  filter.directives.any (lettingBySpan event) || match filter.deciding? event with
    | some directive => event.level.passes directive.threshold
    | none => false

end Filter

end SignalStub.Log
