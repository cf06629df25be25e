/-!
Log events: a level, the module path that emits them, a message, named fields, and the
spans they happen in, outermost first. A field keeps how it was recorded, since the
written forms differ: shown values and counts appear bare, recorded texts are quoted in
line-oriented output.
-/

set_option autoImplicit false

namespace AccountRegistry

/-- Severity of an event. -/
inductive Level where
  | error
  | warn
  | info
  | debug
  | trace
  deriving DecidableEq, Repr

namespace Level

/-- The level's name in capitals. -/
def name : Level → String
  | .error => "ERROR"
  | .warn => "WARN"
  | .info => "INFO"
  | .debug => "DEBUG"
  | .trace => "TRACE"

/-- Verbosity rank: a filter at rank `r` lets through the levels of rank at most `r`. -/
def rank : Level → Nat
  | .error => 1
  | .warn => 2
  | .info => 3
  | .debug => 4
  | .trace => 5

end Level

/-- A field's value and how it was recorded. -/
inductive FieldValue where
  /-- A value written through its display form. -/
  | shown (s : String)
  /-- A text recorded as such. -/
  | text (s : String)
  /-- An unsigned number. -/
  | count (n : Nat)
  deriving DecidableEq, Repr

/-- The plain text of a field value. -/
def FieldValue.plain : FieldValue → String
  | .shown s => s
  | .text s => s
  | .count n => toString n

/-- A span: a named region of work with fields, opened by the module at `target`. -/
structure Span where
  name : String
  target : String
  fields : List (String × FieldValue)
  deriving DecidableEq, Repr

/-- One event. -/
structure LogEvent where
  level : Level
  target : String
  message : String
  fields : List (String × FieldValue) := []
  spans : List Span := []
  deriving DecidableEq, Repr

/-- An event inside one more enclosing span. -/
def LogEvent.within (e : LogEvent) (s : Span) : LogEvent := { e with spans := s :: e.spans }

end AccountRegistry
