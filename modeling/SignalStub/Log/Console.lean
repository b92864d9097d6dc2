import SignalStub.Log.Event
import SignalStub.Text.Quoted

/-! # Events on a console

    An event is one line: its level, the spans around it with their fields, the place that it comes
    from, the message and the fields. The time at which it happened stands in front of the line and
    is not part of the event.
-/

namespace SignalStub.Log

/-- The value of a field as a console shows it. -/
def Value.onConsole : Value → String
  | .text value => Text.Quoted.text value
  | .shown value => value

/-- Fields with blanks between them. -/
def fieldsOnConsole (fields : Fields) : String :=
  " ".intercalate (fields.map fun (name, value) => name ++ "=" ++ value.onConsole)

/-- A span with its fields in braces. -/
def Span.onConsole (span : Span) : String :=
  span.name ++ (if span.fields.isEmpty then "" else "\x7b" ++ fieldsOnConsole span.fields ++ "\x7d")
    ++ ":"

/-- Blanks that bring every level to one width. -/
def Level.padding (level : Level) : String :=
  String.ofList (List.replicate (5 - level.name.length) ' ')

/-- The line of an event, without its time. -/
def Event.line (event : Event) : String :=
  let spans := String.join (event.spans.map Span.onConsole)
  event.level.name ++ " " ++ (if spans.isEmpty then "" else spans ++ " ") ++ event.target ++ ": " ++
    event.message ++ (if event.fields.isEmpty then "" else " " ++ fieldsOnConsole event.fields)

/-- The line of an event that happened at a time. -/
def Event.lineAt (time : String) (event : Event) : String :=
  time ++ " " ++ event.level.padding ++ event.line

end SignalStub.Log
