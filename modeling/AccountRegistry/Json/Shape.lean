import AccountRegistry.Json.Value

/-!
What the services expect of JSON text, and the format they read and write it with.

A payload is read against a shape: a single value (a string, a signed 64-bit integer, a string
passed through a conversion that may refuse it, or one of a list of names), or a record of named
fields, some with a default. A reading problem has a category: malformed text, text that ends
too early, or well formed text whose value does not fit the shape.

The services do not fix the text format itself. They are given a `Codec`: how a value is
written, and how a text is read as a value of a shape. The program runs with the one of
`Json.Reader`.
-/

set_option autoImplicit false

namespace AccountRegistry.Json

/-- The class of a reading problem: malformed text, text that ends too early, or well
formed text whose value does not fit the expected shape. -/
inductive ReadCategory where
  | malformed
  | eof
  | data
  deriving DecidableEq, Repr

/-- A reading problem. -/
structure ReadError where
  message : String
  category : ReadCategory
  /-- Line and byte column, when known. -/
  position : Option (Nat × Nat) := none
  /-- The member or array position whose value was being read. -/
  path : Option String := none
  deriving Repr

/-- The problem's text with its position. -/
def ReadError.text (e : ReadError) : String :=
  match e.position with
  | some (l, c) => e.message ++ " at line " ++ toString l ++ " column " ++ toString c
  | none => e.message

/-- The problem's text after the name of the member it lies in. -/
def ReadError.pathText (e : ReadError) : String :=
  match e.path with
  | some p => p ++ ": " ++ e.text
  | none => e.text

/-- The shape of a single value. -/
inductive ValueShape where
  /-- A string. -/
  | text
  /-- An integer of a signed 64-bit word. -/
  | integer
  /-- A string passed through a conversion; the value read is the converted string, and a
  refusal is the reading problem. -/
  | converted (conv : String → Except String String)
  /-- One of the given names, as a string or as an object with one member whose value is null. -/
  | choice (names : List String)

/-- A field of a record. -/
structure FieldSpec where
  name : String
  shape : ValueShape
  /-- The value taken when the field is absent; a field without one is required. -/
  default : Option Json := none

/-- A record: its name, as messages show it, and its fields in order. -/
structure RecordShape where
  name : String
  fields : List FieldSpec

/-- What a document holds. -/
inductive Shape where
  | value (s : ValueShape)
  | record (r : RecordShape)

/-- A JSON text format: the text a value is written as, and the value a text holds when read
as a shape, or the problem with it. -/
structure Codec where
  write : Json → String
  read : String → Shape → Except ReadError Json

end AccountRegistry.Json
