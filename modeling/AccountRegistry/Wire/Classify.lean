import AccountRegistry.Wire.Basic
import AccountRegistry.Failure.Identity
import AccountRegistry.Failure.Store
import AccountRegistry.Failure
import AccountRegistry.Http.Response
import AccountRegistry.Account

/-!
Answers about failures: reading failure descriptions, classifying and attributing them,
the HTTP response of a failure, and the arithmetic of account identifiers.
-/

set_option autoImplicit false

namespace AccountRegistry.Wire

/-- Reads an identity provider failure from its description. -/
def identityFailureOf (j : Json) : Except Json IdentityFailure := do
  let str (k : String) : String := (j.strField? k).getD ""
  match j.strField? "type" with
  | some "transport" => pure (.transport (str "message"))
  | some "timeout" | some "deadline" => pure .timeout
  | some "rejected" => pure (.rejected (str "code") (str "message"))
  | some "invalid" => pure (.invalid (str "code") (str "message"))
  | some "throttled" => pure (.throttled (str "code") (str "message"))
  | some "service" => pure (.service (str "code") (str "message"))
  | some "conflict" => pure (.conflict (str "message"))
  | some "missing_token" => pure .missingToken
  | some "request" => pure (.request (str "message"))
  | some "code" => pure (IdentityFailure.ofCode (str "code") (str "message"))
  | _ => throw (badInput "unknown identity error type")

/-- Reads a database driver fault from its description. -/
def databaseFaultOf (j : Json) : Except Json DatabaseFault := do
  let str (k : String) : String := (j.strField? k).getD ""
  let num (k : String) : Nat := ((j.intField? k).getD 0).toNat
  match j.strField? "kind" with
  | some "pool_timed_out" => pure .poolTimedOut
  | some "pool_closed" => pure .poolClosed
  | some "worker_crashed" => pure .workerCrashed
  | some "row_not_found" => pure .rowNotFound
  | some "begin_failed" => pure .beginFailed
  | some "invalid_save_point" => pure .savePoint
  | some "protocol" => pure (.protocol (str "message"))
  | some "invalid_argument" => pure (.invalidArgument (str "message"))
  | some "column_not_found" => pure (.columnNotFound (str "message"))
  | some "type_not_found" => pure (.typeNotFound (str "message"))
  | some "column_index_out_of_bounds" => pure (.columnIndexOutOfBounds (num "index") (num "len"))
  | _ => throw (badInput "unknown sqlx error kind")

/-- Reads a store failure from its description. -/
def storeFailureOf (j : Json) : Except Json StoreFailure := do
  match j.strField? "type" with
  | some "not_found" => pure .notFound
  | some "conflict" => pure (.conflict ((j.strField? "message").getD ""))
  | some "timeout" | some "deadline" => pure .timeout
  | some "data_corruption" => pure (.dataCorruption ((j.strField? "message").getD ""))
  | some "database" => pure (.database (← databaseFaultOf ((j.field? "sqlx").getD .null)))
  | _ => throw (badInput "unknown store error type")

/-- How a JSON value shows itself when it is not what was expected. -/
def unexpectedText : Json → String
  | .null => "null"
  | .bool b => "boolean `" ++ (if b then "true" else "false") ++ "`"
  | .int n => "integer `" ++ toString n ++ "`"
  | .decimal m k => "floating point `" ++ Json.decimalText m k ++ "`"
  | .str s => "string " ++ Json.quote s
  | .arr _ => "sequence"
  | .obj _ => "map"

/-- The list of kind names as an error message offers them. -/
def kindChoices : String :=
  ", ".intercalate (FailureKind.all.map fun k => "`" ++ k.name ++ "`")

/-- Reads a failure kind from a JSON value. -/
def failureKindOf (j : Json) : Except Json FailureKind :=
  match j with
  | .str s =>
    match FailureKind.ofName? s with
    | some k => .ok k
    | none => .error (failure "decode" ("unknown variant `" ++ s ++ "`, expected one of " ++ kindChoices))
  | other => .error (failure "decode" ("invalid type: " ++ unexpectedText other ++ ", expected string or map"))

/-- Reads an already classified failure, with the attributions it went through. -/
def classifiedOf (j : Json) : Except Json Failure := do
  let kind ← failureKindOf ((j.field? "kind").getD .null)
  let comps := ((j.field? "components").bind Json.getArr?).getD [] |>.filterMap Json.getStr?
  pure (comps.foldl Failure.attributed (Failure.make kind ((j.strField? "message").getD "")))

/-- Classifies a described failure, attributing it when a component is named. -/
def classifyAnswer (req : Json) : Except Json Json := do
  let spec := (req.field? "error").getD .null
  let (raw, f) ← match req.strField? "source" with
    | some "identity" => do
      let e ← identityFailureOf spec
      pure (Json.obj [("variant", .str e.variantName), ("code", Json.ofOption e.code?),
        ("message", Json.ofOption e.detail?), ("display", .str e.message)], e.classify)
    | some "store" => do
      let e ← storeFailureOf spec
      pure (Json.obj [("variant", .str e.variantName), ("display", .str e.message)], e.classify)
    | some "classified" => do
      let f ← classifiedOf spec
      pure (Json.null, f)
    | _ => throw (badInput "unknown source")
  let (f, logs) := match req.strField? "component" with
    | some c => let (g, e) := f.attributeTo c; (g, [logEntry e])
    | none => (f, [])
  pure (.obj [("raw", raw), ("classified", failureReport f), ("logs", .arr logs)])

/-- The HTTP response a classified failure turns into. -/
def failureResponseAnswer (req : Json) : Except Json Json := do
  let kind ← failureKindOf ((req.field? "kind").getD .null)
  let base := Failure.make kind ((req.strField? "message").getD "")
  let f := match req.strField? "component" with
    | some c => base.attributed c
    | none => base
  let r := Http.Response.ofFailure Json.write f
  pure (.obj [("classified", failureReport f), ("display", .str f.display), ("status", .int r.status),
    ("content_type", Json.ofOption r.contentType), ("body", .str r.body)])

/-- The conversions and comparisons of an account identifier. -/
def accountIdAnswer (req : Json) : Except Json Json := do
  let n ← needInt req "id"
  let i : AccountId := ⟨n⟩
  let cmp := if n < 0 then "Less" else if n = 0 then "Equal" else "Greater"
  pure (.obj [("as_i64", .int n), ("into_i64", .int n), ("is_assigned", .bool i.isAssigned),
    ("display", .str i.display), ("eq_unassigned", .bool (n == 0)), ("cmp_unassigned", .str cmp)])

end AccountRegistry.Wire
