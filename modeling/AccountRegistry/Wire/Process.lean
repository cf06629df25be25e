import AccountRegistry.Wire.Remote
import AccountRegistry.Cli.Run
import AccountRegistry.Server
import AccountRegistry.Log.Filter
import AccountRegistry.Log.Format
import AccountRegistry.Remote.Column
import AccountRegistry.Cpf.Generate

/-!
Runs of the command line on its arguments alone, and runs of whole programs against the
networked world: the command line, the server, the
integration-test helpers, and the reading of one database column.
-/

set_option autoImplicit false

namespace AccountRegistry.Wire

open Remote

open Cli in
/-- Runs the command line on the request's arguments. -/
def commandLine (req : Json) : Json :=
  let args := ((req.field? "args").bind Json.getArr?).getD [] |>.filterMap Json.getStr?
  let finish (code : Nat) (out : String) : Json :=
    .obj [("exit_code", .int code), ("stdout", .str out)]
  match invoke args with
  | .print t => finish 0 t
  | .usageError => finish 2 ""
  | .run (.checkCpf v) =>
    match Cpf.parse v with
    | .ok c => finish 0 (c.digits ++ " valid (" ++ c.formatted ++ ")\n")
    | .error e => finish 1 (Cpf.normalize v ++ " invalid: " ++ e.message ++ "\n")
  | .run _ => finish 1 ""

/-- The world's contents and the exchanges since preparation. -/
def afterRun (exchanges : List Exchange) (w : Network) : List (String × Json) :=
  [("calls", .arr (exchanges.map exchangeReport)), ("dump", dumpReport w)]

/-- Runs the command line after preparing the world; its events are printed in the text
form through the filter of `RUST_LOG`. -/
def commandLineRun (req : Json) : Json :=
  let args := ((req.field? "args").bind Json.getArr?).getD [] |>.filterMap Json.getStr?
  let env := processEnvironment [("RUST_LOG", "ci_cli=info,customer_identity_server=info"), ("NO_COLOR", "1")]
    (req.field? "env")
  let (report, world) := (prepare ((req.field? "setup").getD (.obj [])) true).run emptyNetwork
  let program : Networked Cli.Outcome :=
    match Cli.invoke args with
    | .print t => pure ⟨0, t⟩
    | .usageError => pure ⟨2, ""⟩
    | .run c => Cli.execute Database.server Directory.server env c
  let (outcome, world) := program.run world
  let filter := match env.get? "RUST_LOG" with
    | some s => LogFilter.parseLossy s
    | none => LogFilter.errorsOnly
  let lines := world.events.filterMap (filter.apply ·) |>.map fun e => Json.str (scrubPorts e.textLine)
  .obj ([("setup", report), ("exit_code", .int outcome.exitCode), ("stdout", .str outcome.stdout),
    ("logs", .arr lines)] ++ afterRun world.exchanges world)

/-- The filter of the server: `RUST_LOG` when it reads, else its default. -/
def serverFilter (env : Environment) : LogFilter :=
  let fallback : LogFilter := ⟨[{ target := some "customer_identity_server", rank := 3 }, { target := some "tower_http", rank := 4 }]⟩
  match env.get? "RUST_LOG" with
  | some s => (LogFilter.parse? s).getD fallback
  | none => fallback

/-- Runs the server over the requests after preparing the world. -/
def serverRun (req : Json) : Json :=
  let env := processEnvironment [("IDENTITY_HOST", "127.0.0.1"), ("IDENTITY_PORT", toString serverPort),
    ("RUST_LOG", "customer_identity_server=info")] (req.field? "env")
  let (report, world) := (prepare ((req.field? "setup").getD (.obj [])) true).run emptyNetwork
  let requests := ((req.opt? "requests").bind Json.getArr?).getD [] |>.map fun r =>
    match requestOf r with
    | .ok q => .ok q
    | .error e => .error (((e.field? "message").bind Json.getStr?).getD "")
  let (outcome, world) := (Server.run Database.server Directory.server Json.codec env requests).run world
  let filter := serverFilter env
  let json := env.get? "LOG_FORMAT" == some "json"
  let prefixes := ((req.opt? "log_targets").bind Json.getArr?).map (·.filterMap Json.getStr?)
  let kept := world.events.filterMap (filter.apply ·)
  let lines : List Json :=
    if json then
      kept.filter (fun e => match prefixes with
          | some ps => ps.any fun p => e.target.startsWith p
          | none => true)
        |>.map fun e => scrubJson e.jsonLine
    else kept.map fun e => .str (scrubPorts e.textLine)
  let responses := outcome.responses.map fun r =>
    match r with
    | .ok (r, id) => responseReport r (some (if id == "<uuid>" then "<generated>" else id))
    | .error m => failure "http" m
  .obj ([("setup", report), ("ready", .bool outcome.ready), ("exit_code", .int outcome.exitCode),
    ("responses", .arr responses), ("logs", .arr lines)] ++ afterRun world.exchanges world)
where
  scrubJson : Json → Json
    | .obj ms => .obj (ms.map fun (k, v) => (k, match v with
        | .str s => .str (scrubPorts s)
        | other => other))
    | other => other

/-- Fresh pseudo-random bytes for the `n`-th generated tax id. -/
def seedBytes (n : Nat) : Vector UInt8 16 :=
  Vector.ofFn fun i => UInt8.ofNat ((n * 2654435761 + i.val * 40503 + (n + i.val) * (n + i.val) * 97) % 256)

/-- Runs an integration-test helper. -/
def integrationAnswer (req : Json) : Json :=
  match req.strField? "fn" with
  | some "base_url" => .obj [("ok", .str ((req.strField? "value").getD "http://localhost:3210"))]
  | some "unique_cpf" =>
    let count := ((req.intField? "count").getD 0).toNat
    let made := (List.range count).map fun n => Cpf.fromBytes (seedBytes n)
    let valid := made.all fun s => match Cpf.parse s with
      | .ok c => c.digits == s
      | .error _ => false
    .obj [("count", .int count), ("all_valid", .bool valid), ("all_len_11", .bool (made.all (·.length == 11)))]
  | some "test_pool" =>
    let env := processEnvironment [] (req.field? "env")
    let (report, world) := (prepare ((req.field? "setup").getD (.obj [])) false).run emptyNetwork
    let program : Networked (Option String) := do
      match env.databaseUrl with
      | .error e => pure (some ("IDENTITY_DATABASE_URL must be set: " ++ e.debugText))
      | .ok url =>
        match ← connect Database.server env.get? url with
        | .error f => pure (some ("Failed to connect to test database: " ++ f.debugText))
        | .ok () =>
          match ← migrate Database.server with
          | .error m => pure (some ("Failed to run migrations: " ++ m.debugText))
          | .ok () => pure none
    let (panic?, world) := program.run world
    match panic? with
    | none => .obj ([("setup", report), ("ok", .bool true)] ++ afterRun world.exchanges world)
    | some message =>
      .obj ([("setup", report), ("error", .str "panic"), ("message", .str message)] ++ afterRun world.exchanges world)
  | some f => badInput s!"unknown itest fn: {f}"
  | none => badInput "missing or invalid field: fn"

/-- The reading a request names. -/
def readingOf : Option String → Option Reading
  | some "cpf" => some .cpf
  | some "account_id" => some .accountId
  | some "text" => some .text
  | some "int8" => some .int8
  | _ => none

/-- Binds a value and reads it back as a column. -/
def columnAnswer (req : Json) : Except Json Json := do
  let value := (req.field? "value").getD .null
  let cell ← match req.strField? "bind", value with
    | some "text", .str s => pure (Cell.text s)
    | some "int8", .int n => pure (Cell.int8 n)
    | some "account_id", .int n => pure (Cell.int8 n)
    | some "cpf", .str s =>
      match Cpf.parse s with
      | .ok c => pure (Cell.text c.digits)
      | .error e => throw (cpfFailure e)
    | _, _ => throw (badInput "missing or invalid field: bind")
  let reading ← match readingOf (req.strField? "into") with
    | some r => pure r
    | none => throw (badInput "missing or invalid field: into")
  match decodeColumn reading cell with
  | .ok (.cpf c) => pure (.obj [("value", .obj [("digits", .str c.digits), ("formatted", .str c.formatted)])])
  | .ok (.accountId id) => pure (.obj [("value", .int id.val)])
  | .ok (.text s) => pure (.obj [("value", .str s)])
  | .ok (.int8 n) => pure (.obj [("value", .int n)])
  | .error f => pure (failure "sqlx" f.message)

end AccountRegistry.Wire
