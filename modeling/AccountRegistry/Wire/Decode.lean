import AccountRegistry.Wire.Basic
import AccountRegistry.Payload
import AccountRegistry.Json.Reader

/-!
Answers about tax ids (normalizing, validating and parsing one text) and for reading one
payload from JSON text.
-/

set_option autoImplicit false

namespace AccountRegistry.Wire

open Json

/-- Reads a payload of the named type and reports the value with what can be derived from it. -/
def decodeAnswer (req : Json) : Except Json Json := do
  let text ← needStr req "json"
  let ty ← needStr req "type"
  let shape : Shape ← match ty with
    | "cpf" => pure (.value Payload.taxId)
    | "account" => pure (.record Payload.account)
    | "account_input" => pure (.record Payload.draft)
    | "account_created" => pure (.record Payload.created)
    | "credential_token" => pure (.record Payload.token)
    | "tax_id_form" => pure (.record Payload.taxIdForm)
    | "account_kind" => pure (.value Payload.kind)
    | "account_id" => pure (.value .integer)
    | "error_kind" => pure (.value Payload.failureKind)
    | _ => throw (badInput s!"unknown type: {ty}")
  match readDocument text shape with
  | .error e => pure (failure "decode" e.text)
  | .ok v =>
    let extras : List (String × Json) := match ty, v with
      | "cpf", .str d => [("formatted", .str (Cpf.formatted ⟨d⟩)), ("masked", .str (Cpf.masked ⟨d⟩))]
      | "credential_token", _ =>
        [("is_empty", .bool ((v.strField? "accessToken").getD "").isEmpty),
         ("debug", .str (CredentialToken.debugText ⟨""⟩))]
      | "account_kind", .str l =>
        match AccountKind.ofLabel? l with
        | some k => [("label", .str k.label), ("service_name", .str k.serviceName), ("display", .str k.label)]
        | none => []
      | "account_id", .int n => [("is_assigned", .bool (n != 0)), ("display", .str (toString n))]
      | "error_kind", .str l =>
        match FailureKind.ofName? l with
        | some k => [("as_str", .str k.name), ("status_hint", .int k.status),
            ("is_server_error", .bool k.isServerError), ("display", .str k.name)]
        | none => []
      | _, _ => []
    pure (.obj ([("value", v)] ++ extras))

/-- Everything known about one text read as a CPF. -/
def cpfReport (raw : String) : Json :=
  let (clean, ok) := Cpf.validate raw
  let parsed : Json :=
    match Cpf.parse raw with
    | .ok c => .obj [("digits", .str c.digits), ("formatted", .str c.formatted),
        ("masked", .str c.masked), ("display", .str c.digits), ("json", .str (Json.quote c.digits))]
    | .error e => cpfFailure e
  .obj [("normalized", .str (Cpf.normalize raw)),
        ("validate", .obj [("clean", .str clean), ("ok", .bool ok)]),
        ("parse", parsed)]

/-- The conversions of a parsed CPF, which all give back its digits. -/
def cpfConversions (raw : String) : Json :=
  match Cpf.parse raw with
  | .ok c => .obj [("as_ref", .str c.digits), ("try_from_string", .str c.digits),
      ("into_inner", .str c.digits)]
  | .error e => cpfFailure e

end AccountRegistry.Wire
