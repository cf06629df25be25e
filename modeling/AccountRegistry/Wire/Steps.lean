import AccountRegistry.Wire.Basic
import AccountRegistry.Payload
import AccountRegistry.Http.Router
import AccountRegistry.Json.Reader

/-!
The steps a scenario shares across worlds: the service operations and HTTP requests, read
from their JSON description and run against a pair of services.
-/

set_option autoImplicit false

namespace AccountRegistry.Wire

/-- The account kind a step names, customer by default. -/
def stepKind (step : Json) : Except Json AccountKind :=
  match step.strField? "kind" with
  | none => .ok .customer
  | some s =>
    match AccountKind.ofLabel? s with
    | some k => .ok k
    | none => .error (badInput ("unknown account kind " ++ s))

/-- The call context a step describes: its deadline and its request id. -/
def stepContext (step : Json) : CallContext :=
  let c : CallContext := {}
  let c := match step.intField? "timeout_secs" with
    | some n => c.withTimeoutSecs n.toNat
    | none => c
  let c := match step.intField? "timeout_ms" with
    | some n => c.withTimeoutMs n.toNat
    | none => c
  match step.strField? "request_id" with
  | some id => c.withRequestId id
  | none => c

/-- The answer of a service result. -/
def serviceResult {α : Type} (r : Except Failure α) (ok : α → Json) : Json :=
  match r with
  | .ok a => .obj [("ok", ok a)]
  | .error f =>
    .obj [("error", .str f.kind.name), ("message", .str f.message), ("status", .int f.status),
          ("component", Json.ofOption f.component)]

/-- Whether a character is a token character, as header names and methods are made of. -/
def isTokenChar (c : Char) : Bool := c.isAlphanum || "!#$%&'*+-.^_`|~".toList.contains c

/-- Whether a header value can be sent: no control character but the tab. -/
def isHeaderValue (v : String) : Bool := v.toUTF8.toList.all fun b => (32 ≤ b && b != 127) || b == 9

/-- A header from its description, a pair of strings: its shape is checked first, then
its name, then its value. -/
def headerOf (h : Json) : Except Json (String × String) :=
  match h with
  | .arr [.str k, .str v] =>
    if k.isEmpty || !k.toList.all isTokenChar then .error (badInput "bad header name: invalid HTTP header name")
    else if !isHeaderValue v then .error (badInput "bad header value: failed to parse header value")
    else .ok (k, v)
  | .arr [.str _, _] => .error (badInput "header value must be a string")
  | .arr [_, _] => .error (badInput "header name must be a string")
  | _ => .error (badInput "header must be [name, value]")

/-- An HTTP request from its description, or the refusal of a part that cannot be sent:
the method, then a target that is not a string, then the headers in order and the body;
a target that does not read as one is refused last. -/
def requestOf (step : Json) : Except Json Http.Request := do
  let method := (step.strField? "method").getD "GET"
  if method.isEmpty || !method.toList.all isTokenChar then throw (badInput "bad method: invalid HTTP method")
  let target ← needStr step "uri"
  let entries ← match step.opt? "headers" with
    | none => pure []
    | some (.arr hs) => pure hs
    | some _ => throw (badInput "headers must be a list")
  let headers ← entries.mapM headerOf
  let body ← match step.opt? "body" with
    | none => pure ""
    | some (.str b) => pure b
    | some _ => throw (badInput "body must be a string")
  let uri ← match Http.Uri.parse target with
    | .ok u => pure u
    | .error e => throw (badInput ("bad request: " ++ e.message))
  pure { method := method, uri := uri, headers := headers.map fun (k, v) => (k.toLower, v), body := body }

/-- The draft a step's `input` describes: its `id` (zero when absent), name, tax id and
email. -/
def draftOf (step : Json) : Except Json AccountDraft := do
  let input ← needField step "input"
  let id ← match input.opt? "id" with
    | none => pure 0
    | some _ => needInt input "id"
  let name ← needStr input "name"
  let cpf ← needStr input "cpf"
  let email ← needStr input "email"
  pure { id := ⟨id⟩, name := name, cpf := cpf, email := email }

/-- The answer for an HTTP response and the identifier it echoes. -/
def responseReport (r : Http.Response) (id : Option String) : Json :=
  .obj [("status", .int r.status), ("content_type", Json.ofOption r.contentType), ("body", .str r.body),
        ("request_id", Json.ofOption id)]

variable {m : Type → Type} [Monad m]

/-- Runs a service or HTTP step; `none` for other steps. `fresh` is the identifier the
request-id layer makes up for a request that brings none. -/
def serviceStep (app : Http.App m) (journal : Journal m) (fresh : String) (step : Json) :
    Option (m Json) :=
  let ctx := stepContext step
  let run (f : AccountService m → Except Json (m Json)) : m Json :=
    match stepKind step >>= fun k => f (app.service k) with
    | .ok x => x
    | .error e => pure e
  match step.strField? "op" with
  | some "create" => some <| run fun svc => (draftOf step).map fun d => do
    pure (serviceResult (← svc.create ctx d) Payload.ofCreated)
  | some "update" => some <| run fun svc => (draftOf step).map fun d => do
    pure (serviceResult (← svc.update ctx d) fun () => .null)
  | some "get_by_id" => some <| run fun svc => (needInt step "id").map fun id => do
    pure (serviceResult (← svc.getById ctx ⟨id⟩) Payload.ofAccount)
  | some "get_by_tax_id" => some <| run fun svc => (needStr step "cpf").map fun cpf => do
    pure (serviceResult (← svc.getByTaxId ctx cpf) Payload.ofAccount)
  | some "login" => some <| run fun svc => (needStr step "cpf").map fun cpf => do
    pure (serviceResult (← svc.login ctx cpf) Payload.ofToken)
  | some "login_anonymous" => some <| run fun svc => .ok do
    pure (serviceResult (← svc.loginAnonymous ctx) Payload.ofToken)
  | some "ping" => some <| run fun svc => .ok do
    pure (serviceResult (← svc.ping) fun () => .null)
  | some "service_kind" => some <| run fun svc => .ok (pure (Json.obj [("ok", .str svc.kind.label)]))
  | some "http" => some do
    match requestOf step with
    | .error e => pure e
    | .ok req =>
      if step.boolField? "bare" == some true then
        pure (responseReport (← Http.serveBare Json.codec app req) none)
      else
        let (res, id) ← Http.serve Json.codec app journal fresh req
        pure (responseReport res (some id))
  | _ => none

/-- The answer of a context step: what a context built from the step holds. -/
def contextReport (step : Json) : Json :=
  let c := stepContext step
  let pending : Json := match c.budgetMs with
    | some ms => if ms ≤ 1000 then .bool true else .null
    | none => .null
  .obj [("ok", .obj [("request_id", Json.ofOption c.requestId), ("has_deadline", .bool c.hasDeadline),
    ("remaining_is_some", .bool c.hasDeadline), ("bound_ready", .int 7), ("pending_expired", pending)])]

end AccountRegistry.Wire
