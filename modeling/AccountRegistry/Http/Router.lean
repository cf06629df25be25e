import AccountRegistry.Service
import AccountRegistry.Payload
import AccountRegistry.Http.Response
import AccountRegistry.Http.MediaType
import AccountRegistry.Text.Utf8
import AccountRegistry.Http.Uri

/-!
The HTTP interface of the two account services.

A request is matched on the path of its target (see `Http.Uri`; the query is ignored): an unknown path answers 404 and
a known path with another method 405, both without a body. A handler reads its path
parameter first (an identifier must be a signed 64-bit integer), then its JSON body: the
body needs a JSON content type, must be well formed (else 400) and must fit the payload
(else 422). Service failures become their classified response.

Every request gets an identifier: the first `x-request-id` header when it is non-empty
visible ASCII, else a fresh one. It is carried in the call context and echoed in the
response.

Bodies are read and written in the JSON format the interface is given (`J`).
-/

set_option autoImplicit false

namespace AccountRegistry.Http

/-- An HTTP request. -/
structure Request where
  method : String
  uri : Uri
  headers : List (String × String) := []
  body : String := ""
  deriving Repr

/-- The two services and the time budget of each request. -/
structure App (m : Type → Type) where
  customers : AccountService m
  admins : AccountService m
  callTimeoutSecs : Nat

/-- The routes of the interface. -/
inductive Route where
  | health
  | ready
  | signup
  | login
  | loginGuest
  | adminSignup
  | adminLogin
  | customerById (id : String)
  | customerByCpf (cpf : String)
  | adminById (id : String)
  | adminByCpf
  deriving DecidableEq, Repr

/-- The route a path leads to; a parameter is a non-empty segment, and a fixed segment wins
over a parameter. -/
def route? (path : String) : Option Route :=
  match path.splitOn "/" with
  | ["", "health"] => some .health
  | ["", "health", "ready"] => some .ready
  | ["", "auth", "signup"] => some .signup
  | ["", "auth", "login"] => some .login
  | ["", "auth", "login", "unknown"] => some .loginGuest
  | ["", "auth", "admin", "signup"] => some .adminSignup
  | ["", "auth", "admin", "login"] => some .adminLogin
  | ["", "api", "admin", "customers", id] => if id.isEmpty then none else some (.customerById id)
  | ["", "api", "customers", cpf] => if cpf.isEmpty then none else some (.customerByCpf cpf)
  | ["", "api", "users", "login"] => some .adminByCpf
  | ["", "api", "users", id] => if id.isEmpty then none else some (.adminById id)
  | _ => none

/-- The methods a route answers; a route that answers GET also answers HEAD. -/
def Route.methods : Route → List String
  | .health | .ready | .customerByCpf _ => ["GET", "HEAD"]
  | .customerById _ | .adminById _ => ["GET", "HEAD", "PUT"]
  | _ => ["POST"]

/-- A path segment with its `%xx` escapes decoded, if the result is UTF-8. -/
def percentDecode? (s : String) : Option String :=
  String.fromUTF8? (ByteArray.mk (Text.percentBytes s.toUTF8.toList).toArray)

/-- Decodes a path parameter named `key`, or gives the rejection. -/
def pathParam (key raw : String) : Except Response String :=
  match percentDecode? raw with
  | some v => .ok v
  | none => .error (.text 400 ("Invalid URL: Invalid UTF-8 in `" ++ key ++ "`"))

/-- Reads a signed 64-bit integer in decimal, with an optional sign. -/
def readWord (s : String) : Option Int :=
  let (neg, ds) := match s.toList with
    | '-' :: t => (true, t)
    | '+' :: t => (false, t)
    | t => (false, t)
  if ds.isEmpty || !ds.all Char.isDigit then none
  else
    let v : Int := ds.foldl (fun acc c => acc * 10 + (c.toNat - '0'.toNat)) 0
    let v := if neg then -v else v
    if -(Int.pow 2 63) ≤ v && v < Int.pow 2 63 then some v else none

/-- The value of the first header with a name, compared without letter case. -/
def header? (req : Request) (name : String) : Option String :=
  (req.headers.find? (fun (k, _) => k.toLower == name)).map (·.2)

/-- Whether a header value is visible ASCII (tab allowed). -/
def isVisibleAscii (s : String) : Bool := s.toList.all fun c => (32 ≤ c.toNat && c.toNat < 127) || c == '\t'

/-- Reads a JSON body of a record shape, or gives the rejection. -/
def jsonBody (J : Json.Codec) (req : Request) (shape : Json.RecordShape) : Except Response Json :=
  match header? req "content-type" with
  | some v =>
    if isVisibleAscii v && isJsonMediaType v then
      match J.read req.body (.record shape) with
      | .ok j => .ok j
      | .error e =>
        match e.category with
        | .data => .error (.text 422 ("Failed to deserialize the JSON body into the target type: " ++ e.pathText))
        | _ => .error (.text 400 ("Failed to parse the request body as JSON: " ++ e.pathText))
    else .error missingJson
  | none => .error missingJson
where
  missingJson : Response := .text 415 "Expected request with `Content-Type: application/json`"

/-- Reads an identifier path parameter, or gives the rejection. -/
def idParam (raw : String) : Except Response AccountId := do
  let v ← pathParam "id" raw
  match readWord v with
  | some n => pure ⟨n⟩
  | none => throw (.text 400 ("Invalid URL: Cannot parse `" ++ v ++ "` to a `i64`"))

variable {m : Type → Type} [Monad m] (J : Json.Codec)

/-- The service of an account kind. -/
def App.service (app : App m) : AccountKind → AccountService m
  | .customer => app.customers
  | .adminUser => app.admins

/-- The response of a service result. -/
def answer {α : Type} (r : Except Failure α) (ok : α → Response) : Response :=
  match r with
  | .ok a => ok a
  | .error f => .ofFailure J.write f

/-- Runs a handler that reads its inputs first; a rejection is the response. -/
def withInputs {α : Type} (inputs : Except Response α) (k : α → m Response) : m Response :=
  match inputs with
  | .ok a => k a
  | .error r => pure r

/-- Answers a request on a matched route with a call context. -/
def dispatch (app : App m) (ctx : CallContext) (req : Request) : Route → m Response
  | .health => pure (.text 200 "ok")
  | .ready => do
    match ← app.customers.ping with
    | .ok () => pure (.empty 200)
    | .error _ => pure (.empty 503)
  | .signup => withInputs (jsonBody J req Payload.draft) fun j => do
    pure (answer J (← app.customers.create ctx (Payload.toDraft j)) fun id => .json J.write (Payload.ofCreated id))
  | .adminSignup => withInputs (jsonBody J req Payload.draft) fun j => do
    pure (answer J (← app.admins.create ctx (Payload.toDraft j)) fun id => .json J.write (Payload.ofCreated id))
  | .login => withInputs (jsonBody J req Payload.taxIdForm) fun j => do
    pure (answer J (← app.customers.login ctx ((j.strField? "cpf").getD "")) fun t =>
      .json J.write (Payload.ofToken t))
  | .adminLogin => withInputs (jsonBody J req Payload.taxIdForm) fun j => do
    pure (answer J (← app.admins.login ctx ((j.strField? "cpf").getD "")) fun t =>
      .json J.write (Payload.ofToken t))
  | .loginGuest => do
    pure (answer J (← app.customers.loginAnonymous ctx) fun t => .json J.write (Payload.ofToken t))
  | .customerByCpf raw => withInputs (pathParam "cpf" raw) fun cpf => do
    pure (answer J (← app.customers.getByTaxId ctx cpf) fun a => .json J.write (Payload.ofAccount a))
  | .adminByCpf => withInputs (jsonBody J req Payload.taxIdForm) fun j => do
    pure (answer J (← app.admins.getByTaxId ctx ((j.strField? "cpf").getD "")) fun a =>
      .json J.write (Payload.ofAccount a))
  | .customerById raw => byId app.customers raw
  | .adminById raw => byId app.admins raw
where
  /-- Reads or overwrites the account of a path identifier; the path wins over the body. -/
  byId (svc : AccountService m) (raw : String) : m Response :=
    withInputs (idParam raw) fun id =>
      if req.method == "PUT" then
        withInputs (jsonBody J req Payload.draft) fun j => do
          let d := { Payload.toDraft j with id := id }
          pure (answer J (← svc.update ctx d) fun () => .empty 204)
      else do
        pure (answer J (← svc.getById ctx id) fun a => .json J.write (Payload.ofAccount a))

/-- Answers a request: route, method, then the handler. A HEAD request gets no body. -/
def routed (app : App m) (ctx : CallContext) (req : Request) : m Response := do
  match route? req.uri.path with
  | none => pure (.empty 404)
  | some r =>
    if !r.methods.contains req.method then pure (.empty 405)
    else
      let res ← dispatch J app ctx req r
      pure (if req.method == "HEAD" then { res with body := "" } else res)

/-- The identifier a request carries, if it is usable. -/
def requestIdOf (req : Request) : Option String :=
  match header? req "x-request-id" with
  | some v => if !v.isEmpty && isVisibleAscii v then some v else none
  | none => none

/-- The span of a request. -/
def requestSpan (req : Request) (id : String) : Span :=
  ⟨"http_request", "customer_identity_server::routes",
   [("method", .shown req.method), ("uri", .shown req.uri.display), ("request_id", .text id)]⟩

/-- Answers a request with identifiers: `fresh` is used when the request brings none. Gives
the response and the identifier it echoes. -/
def serve (app : App m) (journal : Journal m) (fresh : String) (req : Request) : m (Response × String) := do
  let id := (requestIdOf req).getD fresh
  let ctx := (CallContext.withTimeoutSecs {} app.callTimeoutSecs).withRequestId id
  let res ← journal.enclose (requestSpan req id) (routed J app ctx req)
  pure (res, id)

/-- Answers a request without identifiers: the context has only the time budget. -/
def serveBare (app : App m) (req : Request) : m Response :=
  routed J app (CallContext.withTimeoutSecs {} app.callTimeoutSecs) req

end AccountRegistry.Http
