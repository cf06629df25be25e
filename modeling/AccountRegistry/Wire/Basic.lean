import AccountRegistry.Json.Value
import AccountRegistry.Cpf
import AccountRegistry.Log
import AccountRegistry.Failure

/-!
Shared pieces of the JSON request/answer surface: error answers and the reading of
request members.
-/

set_option autoImplicit false

namespace AccountRegistry.Wire

/-- An answer reporting a failure of kind `kind` with its text. -/
def failure (kind message : String) : Json :=
  .obj [("error", .str kind), ("message", .str message)]

/-- The answer to a request that does not have the expected shape. -/
def badInput (message : String) : Json := failure "bad_input" message

/-- The answer for a tax id that does not parse. -/
def cpfFailure (e : CpfError) : Json := failure e.name e.message

/-- A required member of any kind (`null` counts as present), or a bad-input answer naming
it. -/
def needField (j : Json) (k : String) : Except Json Json :=
  match j.field? k with
  | some v => .ok v
  | none => .error (badInput ("missing field `" ++ k ++ "`"))

/-- A required string member, or a bad-input answer naming it. -/
def needStr (j : Json) (k : String) : Except Json String :=
  match j.strField? k with
  | some s => .ok s
  | none => .error (badInput ("missing string field `" ++ k ++ "`"))

/-- A required member holding a 64-bit signed integer, or a bad-input answer naming it. -/
def needInt (j : Json) (k : String) : Except Json Int :=
  match j.intField? k with
  | some n => if -(Int.pow 2 63) ≤ n && n < Int.pow 2 63 then .ok n else .error (badInput ("field `" ++ k ++ "` must be an i64"))
  | none => .error (badInput ("field `" ++ k ++ "` must be an i64"))

/-- The answer of a computation that may stop early with an answer of its own. -/
def settle (r : Except Json Json) : Json :=
  match r with
  | .ok j => j
  | .error j => j

/-- A log event as level and fields, every value as text and the message among them. -/
def logEntry (e : LogEvent) : Json :=
  .obj [("level", .str e.level.name),
        ("fields", .obj (e.fields.map (fun (k, v) => (k, Json.str v.plain)) ++ [("message", .str e.message)]))]

/-- A classified failure with its parts and its display text. -/
def failureReport (f : Failure) : Json :=
  .obj [("kind", .str f.kind.name), ("status", .int f.status), ("message", .str f.message),
        ("component", Json.ofOption f.component), ("display", .str f.display)]

end AccountRegistry.Wire
