import AccountRegistry.Wire.Steps
import AccountRegistry.Wire.Config
import AccountRegistry.Remote.World
import AccountRegistry.Remote.Database
import AccountRegistry.Remote.Client

/-!
The networked world on the JSON surface: the variables a process sees, the preparation of
the database and the directory before a run, their contents afterwards, and scenarios whose
steps run against them.
-/

set_option autoImplicit false

namespace AccountRegistry.Wire

open Remote

/-- The world of the database and the directory the program is run against. -/
abbrev Network := Remote.World Database Directory

/-- A step of work against that database and directory. -/
abbrev Networked := Remote.Step Database Directory

/-- That world before anything is stored. -/
def emptyNetwork : Network := { database := {}, directory := {} }

/-- The database URL of the local database. -/
def databaseUrl : String := "postgres://oracle@127.0.0.1:" ++ toString databasePort ++ "/identity"

/-- The URL of the local user directory. -/
def directoryUrl : String := "http://127.0.0.1:" ++ toString directoryPort

/-- An error-report address that leads to the local user directory. -/
def sinkDsn : String := "http://public@127.0.0.1:" ++ toString directoryPort ++ "/1"

/-- Replaces every occurrence of a text. -/
def replaceAll (s pattern replacement : String) : String :=
  (s.splitOn pattern).foldl (fun acc part => if acc.isNone then some part else acc.map (· ++ replacement ++ part)) none
    |>.getD s

/-- Expands the placeholders of a variable's value. -/
def expand (v : String) : String :=
  let v := replaceAll v "\x7bpg_url\x7d" databaseUrl
  let v := replaceAll v "\x7bpg_port\x7d" (toString databasePort)
  let v := replaceAll v "\x7bcognito_url\x7d" directoryUrl
  replaceAll v "\x7bsink_dsn\x7d" sinkDsn

/-- The variables every process sees unless the request overrides them. -/
def baseVariables : List (String × String) :=
  [("DATABASE_URL", databaseUrl), ("AWS_REGION", "sa-east-1"), ("COGNITO_USER_POOL_ID", "sa-east-1_Oracle"),
   ("COGNITO_CLIENT_ID", "oracle-client"), ("COGNITO_GROUP_USER", "customers"), ("COGNITO_GROUP_ADMIN", "admins"),
   ("COGNITO_PASSWORD_SUFFIX", "1234&$sWa"), ("COGNITO_TEMP_PASSWORD_SUFFIX", "12!@Az")]

/-- The variables of a process: the base ones and `extra`, then the request's overrides; a
null override removes a variable. -/
def processEnvironment (extra : List (String × String)) (overrides : Option Json) : Environment :=
  let start := baseVariables ++ extra
  let changes := (overrides.bind Json.getObj?).getD []
  let vars := changes.foldl (fun acc (k, v) =>
    let rest := acc.filter (·.1 != k)
    match v with
    | .str s => rest ++ [(k, expand s)]
    | _ => rest) start
  ⟨vars⟩

/-- Writes the local ports back as the names they stand for. -/
def scrubPorts (s : String) : String :=
  let s := replaceAll s ("127.0.0.1:" ++ toString databasePort) "127.0.0.1:<pg_port>"
  let s := replaceAll s ("127.0.0.1:" ++ toString directoryPort) "127.0.0.1:<cognito_port>"
  replaceAll s ("127.0.0.1:" ++ toString serverPort) "127.0.0.1:<port>"

/-- A refusal from its description: a delay if it has one, else a server error. -/
def refusalOf (j : Json) : Refusal :=
  match j.intField? "delay_ms" with
  | some ms => if ms > 0 then .stall ms.toNat else .error ((j.strField? "code").getD "XX000") ((j.strField? "message").getD "")
  | none => .error ((j.strField? "code").getD "XX000") ((j.strField? "message").getD "")

/-- A directory fault from its description. -/
def faultOf (j : Json) : Fault :=
  { delayMs := ((j.intField? "delay_ms").getD 0).toNat, close := (j.boolField? "close").getD false,
    raw := j.strField? "raw", status := (j.intField? "status").map Int.toNat, errorType := j.strField? "type",
    message := j.strField? "message" }

/-- Plants a database refusal; `connect` refuses every connection from then on. -/
def plantRefusal (target : String) (r : Refusal) : Networked Unit :=
  modify fun w =>
    if target == "connect" then { w with database := { w.database with connectRefusal := some r } }
    else { w with database := w.database.plant target r }

/-- Plants a directory fault. -/
def plantFault (op : String) (f : Fault) : Networked Unit :=
  modify fun w => { w with directory := w.directory.plant op f }

/-- A directory user from its description. -/
def memberOf (j : Json) : Member :=
  { username := (j.strField? "username").getD "", password := j.strField? "password",
    temporaryPassword := j.strField? "temporary_password",
    groups := ((j.opt? "groups").bind Json.getArr?).getD [] |>.filterMap Json.getStr?,
    attributes := ((j.opt? "attributes").bind Json.getObj?).getD [] |>.filterMap fun (k, v) => v.getStr?.map (k, ·) }

/-- Stores a row as given. -/
def seedRow (kind : AccountKind) (name cpf email : String) : Networked Int := do
  let w ← get
  let (id, db) := w.database.seed kind name cpf email
  set { w with database := db }
  pure id

/-- The account kind a row description names. -/
def rowKind (j : Json) : AccountKind := ((j.strField? "kind").bind AccountKind.ofLabel?).getD .customer

/-- Prepares the world: the migration first when asked for (`migratedDefault` when not
said), then rows, users, history, refusals and faults. Gives the preparation's report. -/
def prepare (setup : Json) (migratedDefault : Bool) : Networked Json := do
  let migrated := (setup.boolField? "migrated").getD migratedDefault
  let report ← if migrated then do
      match ← connect Database.server (fun _ => none) databaseUrl with
      | .error f => pure (Json.obj [("migrations", .str f.message)])
      | .ok () =>
        match ← migrate Database.server with
        | .ok () => pure (Json.obj [("migrations", .str "ok")])
        | .error e => pure (Json.obj [("migrations", .str e.message)])
    else pure (Json.obj [])
  for r in ((setup.opt? "pg_rows").bind Json.getArr?).getD [] do
    let _ ← seedRow (rowKind r) ((r.strField? "name").getD "") ((r.strField? "cpf").getD "") ((r.strField? "email").getD "")
  for u in ((setup.opt? "cognito_users").bind Json.getArr?).getD [] do
    modify fun w => { w with directory := w.directory.put (memberOf u) }
  for m in ((setup.opt? "migrations").bind Json.getArr?).getD [] do
    let row : MigrationRow := ⟨(m.intField? "version").getD 0, (m.strField? "description").getD "",
      (m.boolField? "success").getD true, ((m.strField? "checksum_hex").getD "").toLower⟩
    modify fun w => { w with database := w.database.record row }
  for (target, spec) in ((setup.opt? "pg_fail").bind Json.getObj?).getD [] do
    plantRefusal target (refusalOf spec)
  for (op, spec) in ((setup.opt? "cognito_fail").bind Json.getObj?).getD [] do
    plantFault op (faultOf spec)
  let _ ← drain
  pure report

/-- The written form of a stored row. -/
def rowReport (r : Row) : Json :=
  .obj [("id", .int r.id), ("name", .str r.name), ("cpf", .str r.cpf), ("email", .str r.email)]

/-- The contents of the database and the directory. -/
def dumpReport (w : Network) : Json :=
  let db := w.database
  .obj [("pg", .obj [("migrated", .bool db.migrated), ("customer", .arr (db.customers.map rowReport)),
      ("admin_user", .arr (db.admins.map rowReport)),
      ("migrations", .arr (db.history.map fun m =>
        .obj [("version", .int m.version), ("description", .str m.description), ("success", .bool m.success)]))]),
    ("cognito", .obj (w.directory.users.map fun u =>
      (u.username, .obj [("attributes", .obj (u.attributes.map fun (k, v) => (k, .str v))),
        ("temporary_password", Json.ofOption u.temporaryPassword), ("password", Json.ofOption u.password),
        ("groups", .arr (u.groups.map Json.str))])))]

/-- The written form of an exchange. -/
def exchangeReport : Exchange → Json
  | .statement s =>
    let params : List Json := match s with
      | .insert _ n c e => [.str n, .str c, .str e]
      | .update _ id n c e => [.int id, .str n, .str c, .str e]
      | .selectById _ id => [.int id]
      | .selectByCpf _ c => [.str c]
      | .ping => []
    .obj [("cap", .str "pg"), ("op", .str s.target), ("table", Json.ofOption (s.table?.map AccountKind.label)),
      ("params", .arr params)]
  | .script => .obj [("cap", .str "pg"), ("op", .str "migration_script")]
  | .request r => .obj [("cap", .str "cognito"), ("op", .str r.operation), ("body", r.body)]

/-- Runs one step of a networked scenario and gives its result. -/
def remoteStep (cfg : ServerConfig) (step : Json) : Networked Json :=
  match serviceStep (Remote.app Database.server Directory.server cfg.provider cfg.callTimeoutSecs) Remote.journal
    "<generated>" step with
  | some run => run
  | none =>
    match step.strField? "op" with
    | some "pg_fail" => do
      plantRefusal ((step.strField? "target").getD "") (refusalOf step)
      pure (.obj [("ok", .null)])
    | some "cognito_fail" => do
      plantFault ((step.strField? "target").getD "") (faultOf step)
      pure (.obj [("ok", .null)])
    | some "pg_seed" => do
      let id ← seedRow (rowKind step) ((step.strField? "name").getD "") ((step.strField? "cpf").getD "")
        ((step.strField? "email").getD "")
      pure (.obj [("ok", .obj [("id", .int id)])])
    | some "cognito_seed" => do
      modify fun w => { w with directory := w.directory.put (memberOf step) }
      pure (.obj [("ok", .null)])
    | some "dump" => do
      pure (.obj [("ok", dumpReport (← get))])
    | some "store_kind" =>
      match stepKind step with
      | .ok k => pure (.obj [("ok", .str k.label)])
      | .error e => pure e
    | some "context" => pure (contextReport step)
    | some op => pure (badInput s!"unknown step op: {op}")
    | none => pure (badInput "missing string field `op`")

/-- Runs a step and reports it with the exchanges and events it caused. -/
def reportedRemoteStep (cfg : ServerConfig) (step : Json) : Networked Json := do
  let result ← remoteStep cfg step
  let (exchanges, events) ← drain
  pure (.obj [("result", result), ("calls", .arr (exchanges.map exchangeReport)), ("logs", .arr (events.map logEntry))])

/-- The answer of a networked scenario: prepare, read the settings, open the pool, wire the
services, then run the steps. -/
def remoteScenario (req : Json) : Json :=
  let env := processEnvironment [] (req.field? "env")
  let (report, world) := (prepare ((req.field? "setup").getD (.obj [])) true).run emptyNetwork
  match env.serverConfig with
  | .error e => .obj [("setup", report), ("config_error", configFailure e)]
  | .ok cfg =>
    let (opened, world) := (connect Database.server env.get? cfg.databaseUrl).run world
    match opened with
    | .error f => .obj [("setup", report), ("pool_error", .str f.message)]
    | .ok () =>
      let steps := ((req.opt? "steps").bind Json.getArr?).getD []
      let (answers, _) := (steps.mapM (reportedRemoteStep cfg)).run { world with elapsed := 0 }
      .obj [("setup", report), ("wiring_logs", .arr [logEntry (providerReady cfg.provider)]), ("steps", .arr answers)]

end AccountRegistry.Wire
