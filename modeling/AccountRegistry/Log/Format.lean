import AccountRegistry.Log
import AccountRegistry.Json.Value
import AccountRegistry.Text.Unicode

/-!
The two written forms of an event, as a process prints them (its timestamp aside).

The text form is `LEVEL spans: target: message k=v ...`, where each span is written as
`name{k=v ...}` (or its name alone when it has no fields) and the spans are joined by `:`
from the outermost. A value given as text is quoted in its diagnostic form; a displayed
value or a number is written bare.

The JSON form flattens the event's fields, the message among them, beside `level` and
`target`; inside spans it adds `span`, the innermost span, and `spans`, all of them from the
outermost, each with its fields and `name`.
-/

set_option autoImplicit false

namespace AccountRegistry

namespace FieldValue

/-- A value in the text form. -/
def textForm : FieldValue → String
  | .shown s => s
  | .text s => Text.debugQuote s
  | .count n => toString n

/-- A value in the JSON form. -/
def jsonForm : FieldValue → Json
  | .shown s => .str s
  | .text s => .str s
  | .count n => .int n

end FieldValue

/-- Fields in the text form, each preceded by a blank. -/
def fieldsText (fs : List (String × FieldValue)) : String :=
  String.join (fs.map fun (k, v) => " " ++ k ++ "=" ++ v.textForm)

/-- A span in the text form. -/
def Span.textForm (s : Span) : String :=
  if s.fields.isEmpty then s.name
  else s.name ++ "\x7b" ++ " ".intercalate (s.fields.map fun (k, v) => k ++ "=" ++ v.textForm) ++ "\x7d"

/-- A span in the JSON form. -/
def Span.jsonForm (s : Span) : Json := .obj (s.fields.map (fun (k, v) => (k, v.jsonForm)) ++ [("name", .str s.name)])

namespace LogEvent

/-- The text form. -/
def textLine (e : LogEvent) : String :=
  let spans := if e.spans.isEmpty then "" else ":".intercalate (e.spans.map Span.textForm) ++ ": "
  e.level.name ++ " " ++ spans ++ e.target ++ ": " ++ e.message ++ fieldsText e.fields

/-- The JSON form. -/
def jsonLine (e : LogEvent) : Json :=
  let base := [("level", Json.str e.level.name), ("message", .str e.message)] ++
    e.fields.map (fun (k, v) => (k, v.jsonForm)) ++ [("target", .str e.target)]
  match e.spans.getLast? with
  | some inner => .obj (base ++ [("span", inner.jsonForm), ("spans", .arr (e.spans.map Span.jsonForm))])
  | none => .obj base

end LogEvent

end AccountRegistry
