import AccountRegistry.Remote.World

/-!
A run of the HTTP server: read the configuration, open the database pool, wire the
services, announce the address and bind it, answer the requests one by one, and shut down
gracefully on the stop signal.

A configuration, pool or bind failure ends the run at once with status 101; the first two
happen before logging is set up, so nothing is logged. The address is announced before it
is bound. Each request runs inside its `http_request` span; the HTTP trace layer adds a
debug event when a request starts and one when its response is ready.

The database server, the user directory and the JSON format are parameters of the run.
-/

set_option autoImplicit false

namespace AccountRegistry.Server

variable {σ δ : Type}

/-- The module path of the server's own events. -/
def target : String := "customer_identity_server"

/-- How a run ended. -/
structure Outcome where
  /-- Whether the server accepted connections. -/
  ready : Bool
  exitCode : Nat
  /-- For each request, the response with the request identifier it echoed, or why the
  request could not be sent. -/
  responses : List (Except String (Http.Response × String))

/-- An event of the server itself. -/
def note (message : String) : LogEvent := { level := .info, target := target, message := message }

/-- Whether an address can be bound: a loopback or unspecified host, on a port nobody else
listens on. -/
def bindable (cfg : ServerConfig) : Bool :=
  let local? := match cfg.host with
    | .v4 octets => octets.head? == some 127 || octets.all (· == 0)
    | .v6 groups => groups.all (· == 0) || groups == [0, 0, 0, 0, 0, 0, 0, 1]
  local? && cfg.port != Remote.databasePort && cfg.port != Remote.directoryPort

/-- The span of a request before and after its handler ran. -/
def traceSpan (req : Http.Request) (fields : List (String × FieldValue)) : Span :=
  ⟨"http_request", "customer_identity_server::routes",
   [("method", .shown req.method), ("uri", .shown req.uri.display)] ++ fields⟩

/-- Answers one request with the trace layer's events around it. -/
def answer (J : Json.Codec) (app : Http.App (Remote.Step σ δ)) (req : Http.Request) :
    Remote.Step σ δ (Http.Response × String) := do
  modify fun w => { w with elapsed := 0 }
  Remote.journal.emit
    { level := .debug, target := "tower_http::trace::on_request", message := "started processing request",
      spans := [traceSpan req []] }
  let (res, id) ← Http.serve J app Remote.journal "<uuid>" req
  let ms := (← get).elapsed
  Remote.journal.emit
    { level := .debug, target := "tower_http::trace::on_response", message := "finished processing request",
      fields := [("latency", .shown (toString ms ++ " ms")), ("status", .count res.status)],
      spans := [traceSpan req [("request_id", .text id), ("status", .count res.status), ("latency_ms", .count ms)]] }
  pure (res, id)

/-- Runs the server over the requests, against a database and a directory and in a JSON format;
a request that could not be sent gets no answer. -/
def run (db : Remote.DatabaseServer σ) (dir : Remote.DirectoryServer δ) (J : Json.Codec) (env : Environment)
    (requests : List (Except String Http.Request)) : Remote.Step σ δ Outcome := do
  match env.serverConfig with
  | .error _ => pure ⟨false, 101, []⟩
  | .ok cfg =>
    match ← Remote.connect db env.get? cfg.databaseUrl with
    | .error _ => pure ⟨false, 101, []⟩
    | .ok () =>
      Remote.journal.emit (note "Database pool created")
      Remote.journal.emit (Remote.providerReady cfg.provider)
      Remote.journal.emit (note ("identity server listening on " ++ cfg.socketText))
      if !bindable cfg then pure ⟨false, 101, []⟩
      else
        let app := Remote.app db dir cfg.provider cfg.callTimeoutSecs
        let responses ← requests.mapM fun r =>
          match r with
          | .ok req => Except.ok <$> answer J app req
          | .error m => pure (.error m)
        Remote.journal.emit (note "Shutdown signal received, starting graceful shutdown")
        pure ⟨true, 0, responses⟩

end AccountRegistry.Server
