import AccountRegistry.Service
import AccountRegistry.Http.Router
import AccountRegistry.Config
import AccountRegistry.Remote.Servers
import AccountRegistry.Remote.Connection

/-!
The account services over a database server and a user directory reached through the network.
The servers are parameters (`DatabaseServer`, `DirectoryServer`); the world holds their states
beside what was sent to them and what was logged.

The store sends one statement per operation and reads its answer: a unique violation on a
write is a conflict, an update that touches no row is a missing account, and a stored tax
id that does not parse is corrupt data. The identity provider registers an account in three
requests (create the user, set its permanent password, add it to its group), each logged
once it succeeds, and logs in with one request.

A call's deadline is kept against the time the current step has spent: a statement or
request held past it ends the call with a timeout, and the held work never takes effect.
-/

set_option autoImplicit false

namespace AccountRegistry.Remote

/-- One exchange with the database or the directory, as the network sees it. -/
inductive Exchange where
  | statement (s : Statement)
  | script
  | request (r : DirectoryRequest)
  deriving Repr

/-- The states of the database and the directory, what was sent to them, and what was logged. -/
structure World (σ δ : Type) where
  database : σ
  directory : δ
  exchanges : List Exchange := []
  events : List LogEvent := []
  /-- The open spans, outermost first. -/
  spans : List Span := []
  /-- Milliseconds the current step has spent. -/
  elapsed : Nat := 0

/-- A step of work in the world. -/
abbrev Step (σ δ : Type) := StateM (World σ δ)

variable {σ δ : Type}

/-- Records an exchange. -/
def send (x : Exchange) : Step σ δ Unit := modify fun w => { w with exchanges := w.exchanges ++ [x] }

/-- The journal of the world: events are kept with the spans open when they happen. -/
def journal : Journal (Step σ δ) where
  emit e := modify fun w => { w with events := w.events ++ [{ e with spans := w.spans ++ e.spans }] }
  enclose s x := do
    let saved := (← get).spans
    modify fun w => { w with spans := saved ++ [s] }
    let a ← x
    modify fun w => { w with spans := saved }
    pure a

/-- Spends `ms` milliseconds under an optional deadline; true when the deadline passes
first, in which case the time spent stops at the deadline. -/
def spend (budget : Option Nat) (ms : Nat) : Step σ δ Bool := do
  let w ← get
  match budget with
  | some b =>
    if w.elapsed + ms > b then
      set { w with elapsed := max w.elapsed b }
      pure true
    else
      set { w with elapsed := w.elapsed + ms }
      pure false
  | none =>
    set { w with elapsed := w.elapsed + ms }
    pure false

/-! ## The store -/

section Store

variable (db : DatabaseServer σ)

/-- Sends a statement and reads the database's answer. -/
def query (budget : Option Nat) (s : Statement) : Step σ δ (Except StoreFailure Answer) := do
  send (.statement s)
  let w ← get
  let (r, d) := db.run w.database s
  set { w with database := d }
  match r with
  | .ok a => pure (.ok a)
  | .error (.error c m) => pure (.error (.database (.server c m)))
  | .error (.stall ms) =>
    if ← spend budget ms then pure (.error .timeout)
    else pure (.error (.database (.server queryCanceled canceledText)))

/-- A write failure: a unique violation is a conflict on the tax id. -/
def writeFailureText (e : StoreFailure) : StoreFailure :=
  match e with
  | .database (.server c _) => if c == uniqueViolation then .conflict "cpf already registered" else e
  | e => e

/-- The account a stored row holds. -/
def decodeRow (r : Row) : Except StoreFailure Account :=
  match Cpf.parse r.cpf with
  | .ok cpf => .ok ⟨⟨r.id⟩, r.name, cpf, r.email⟩
  | .error e => .error (.dataCorruption ("invalid cpf in database: " ++ e.message))

/-- The account of the first row of an answer. -/
def firstAccount (a : Answer) : Except StoreFailure Account :=
  match a with
  | .rows (r :: _) => decodeRow r
  | _ => .error .notFound

/-- The table of an account kind as a store. -/
def store (k : AccountKind) : AccountStore (Step σ δ) where
  insert ctx a := do
    match ← query db ctx.budgetMs (.insert k a.name a.cpf.digits a.email) with
    | .ok (.inserted id) => pure (.ok ⟨id⟩)
    | .ok _ => pure (.error (.database .rowNotFound))
    | .error e => pure (.error (writeFailureText e))
  save ctx a := do
    match ← query db ctx.budgetMs (.update k a.id.val a.name a.cpf.digits a.email) with
    | .ok (.affected 0) => pure (.error .notFound)
    | .ok _ => pure (.ok ())
    | .error e => pure (.error (writeFailureText e))
  findById ctx id := do
    pure ((← query db ctx.budgetMs (.selectById k id.val)).bind firstAccount)
  findByTaxId ctx cpf := do
    pure ((← query db ctx.budgetMs (.selectByCpf k cpf.digits)).bind firstAccount)
  ping := do
    pure ((← query db none .ping).map fun _ => ())

end Store

/-! ## The identity provider -/

/-- Sorts a failed call into the provider's failures: a named error by its code, an error without
a name as a service error of code `Unknown`, a request that could not be built as such, and
everything else as the provider being out of reach. -/
def SdkFailure.toIdentity : SdkFailure → IdentityFailure
  | .timeoutError => .timeout
  | .serviceError code message => IdentityFailure.ofCode code (message.getD "")
  | .unnamedServiceError shown => .service "Unknown" shown
  | .constructionFailure shown => .request shown
  | .dispatchFailure shown | .responseError shown => .transport shown

section Provider

variable (dir : DirectoryServer δ)

/-- Sends a request to the directory and reads its reply; the call's deadline passing first is a
timeout of its own. -/
def request (ctx : CallContext) (r : DirectoryRequest) : Step σ δ (Except IdentityFailure Json) := do
  send (.request r)
  let w ← get
  let (delay, reply, d) := dir.call w.directory r
  set { w with directory := d }
  if ← spend ctx.budgetMs delay then pure (.error .timeout)
  else pure (reply.mapError SdkFailure.toIdentity)

/-- The module path of the identity provider's events. -/
def providerTarget : String := "customer_identity_server::identity::cognito"

/-- A debug event of the identity provider. -/
def providerNote (message : String) (fields : List (String × FieldValue) := []) : LogEvent :=
  { level := .debug, target := providerTarget, message := message, fields := fields }

/-- Logs in with a user name and password. -/
def passwordLogin (cfg : ProviderConfig) (ctx : CallContext) (user password : String) :
    Step σ δ (Except IdentityFailure CredentialToken) := do
  match ← request dir ctx (.initiateAuth cfg.clientId user password) with
  | .error e => pure (.error e)
  | .ok j =>
    match ((j.field? "AuthenticationResult").bind (·.field? "AccessToken")).bind Json.getStr? with
    | some t => if t.isEmpty then pure (.error .missingToken) else pure (.ok ⟨t⟩)
    | none => pure (.error .missingToken)

/-- The identity provider of a configuration. -/
def identity (cfg : ProviderConfig) : IdentityProvider (Step σ δ) where
  register ctx r :=
    journal.enclose ⟨"register", providerTarget, [("cpf", .shown r.cpf.masked), ("role", .shown r.role.label)]⟩ do
      let user := r.cpf.digits
      let group := cfg.groupFor r.role
      let attrs := [("name", r.name), ("email", r.email), ("email_verified", "true")]
      match ← request dir ctx (.createUser cfg.userPoolId user (user ++ cfg.tempPasswordSuffix) attrs) with
      | .error e => pure (.error e)
      | .ok _ =>
        journal.emit (providerNote "Identity created")
        match ← request dir ctx (.setPassword cfg.userPoolId user (user ++ cfg.passwordSuffix) true) with
        | .error e => pure (.error e)
        | .ok _ =>
          journal.emit (providerNote "Permanent password set")
          match ← request dir ctx (.addToGroup cfg.userPoolId user group) with
          | .error e => pure (.error e)
          | .ok _ =>
            journal.emit (providerNote "Identity added to group" [("group", .shown group)])
            pure (.ok ())
  authenticate ctx taxId :=
    journal.enclose ⟨"authenticate", providerTarget, []⟩ do
      let user := Cpf.normalize taxId
      passwordLogin dir cfg ctx user (user ++ cfg.passwordSuffix)
  authenticateAnonymous ctx :=
    journal.enclose ⟨"authenticate_anonymous", providerTarget, []⟩ do
      passwordLogin dir cfg ctx cfg.anonymousUsername cfg.anonymousPassword

end Provider

/-- The event of a configured identity provider. -/
def providerReady (cfg : ProviderConfig) : LogEvent :=
  { level := .info, target := providerTarget, message := "Initialized Cognito identity provider",
    fields := [("region", .shown cfg.region), ("user_pool_id", .shown cfg.userPoolId)] }

/-- Both services over the world, with a per-request time budget. -/
def app (db : DatabaseServer σ) (dir : DirectoryServer δ) (cfg : ProviderConfig) (callTimeoutSecs : Nat) :
    Http.App (Step σ δ) :=
  ⟨⟨.customer, identity dir cfg, store db .customer, journal⟩,
   ⟨.adminUser, identity dir cfg, store db .adminUser, journal⟩, callTimeoutSecs⟩

/-! ## Connections and migrations -/

/-- The refusal of a connection that must be encrypted: the driver has no encryption. -/
def tlsUnavailable : String :=
  "TLS upgrade required by connect options but SQLx was built without TLS support enabled"

/-- The warning for a query parameter that means nothing to a connection. -/
def ignoredParameter (p : String × String) : LogEvent :=
  { level := .warn, target := "sqlx_postgres::options::parse", message := "ignoring unrecognized connect parameter",
    fields := [("key", .shown p.1), ("value", .shown p.2)] }

/-- Opens a connection pool to a database URL, over the connection settings of the
environment variables `var?` gives. A refused connection is retried until the pool's
acquire timeout, as is a server that is still starting up. A connection that must be
encrypted fails once the server answers. -/
def connect (db : DatabaseServer σ) (var? : String → Option String) (url : String) :
    Step σ δ (Except DatabaseFault Unit) := do
  match optionsOf var? url with
  | .error e => pure (.error (.configuration e.message e.debugText))
  | .ok o =>
    for p in o.ignored do
      journal.emit (ignoredParameter p)
    match o.reach with
    | .noSocket => pure (.error (.io "No such file or directory (os error 2)"))
    | .refused => pure (.error .poolTimedOut)
    | .unresolved => pure (.error (.io "failed to lookup address information: Temporary failure in name resolution"))
    | .database =>
      if o.sslMode.demandsEncryption then pure (.error (.tls tlsUnavailable))
      else
        match db.connectRefusal (← get).database with
        | none => pure (.ok ())
        | some (.error c m) => pure (.error (if c == "57P03" then .poolTimedOut else .server c m))
        | some (.stall ms) =>
          let _ ← spend none ms
          pure (.error (.server queryCanceled canceledText))

/-- Why the schema could not be migrated. -/
inductive MigrationFailure where
  /-- A recorded migration did not finish. -/
  | dirty (version : Int)
  /-- A recorded migration is not one this program ships. -/
  | missing (version : Int)
  /-- A recorded migration differs from the one this program ships. -/
  | modified (version : Int)
  /-- The migration's script failed. -/
  | executing (version : Int) (fault : DatabaseFault)
  deriving DecidableEq, Repr

namespace MigrationFailure

/-- The human-readable text. -/
def message : MigrationFailure → String
  | .dirty v => "migration " ++ toString v ++ " is partially applied; fix and remove row from `_sqlx_migrations` table"
  | .missing v => "migration " ++ toString v ++ " was previously applied but is missing in the resolved migrations"
  | .modified v => "migration " ++ toString v ++ " was previously applied but has been modified"
  | .executing v f => "while executing migration " ++ toString v ++ ": " ++ f.message

/-- The diagnostic form. -/
def debugText : MigrationFailure → String
  | .dirty v => "Dirty(" ++ toString v ++ ")"
  | .missing v => "VersionMissing(" ++ toString v ++ ")"
  | .modified v => "VersionMismatch(" ++ toString v ++ ")"
  | .executing v f => "ExecuteMigration(" ++ f.debugText ++ ", " ++ toString v ++ ")"

end MigrationFailure

/-- Brings the schema up to date: the history must hold no unfinished migration and none
this program does not ship, the shipped one must match its record, and if it is not
recorded its script is run and recorded. A script that does not reach the server is not
seen on the network. -/
def migrate (db : DatabaseServer σ) : Step σ δ (Except MigrationFailure Unit) := do
  let m := schemaMigration
  let history := (db.history (← get).database).mergeSort fun a b => a.version ≤ b.version
  match history.find? (!·.success) with
  | some r => pure (.error (.dirty r.version))
  | none =>
    match history.find? (·.version != m.version) with
    | some r => pure (.error (.missing r.version))
    | none =>
      match history.find? (·.version == m.version) with
      | some r => pure (if r.checksum == m.checksum then .ok () else .error (.modified m.version))
      | none =>
        let (reached, r, d) := db.runScript (← get).database
        if reached then send .script
        modify fun w => { w with database := d }
        match r with
        | .error (.error c msg) => pure (.error (.executing m.version (.server c msg)))
        | .error (.stall ms) =>
          let _ ← spend none ms
          pure (.error (.executing m.version (.server queryCanceled canceledText)))
        | .ok () =>
          modify fun w => { w with database := db.record w.database ⟨m.version, m.description, true, m.checksum⟩ }
          pure (.ok ())

/-- The exchanges and events since the last drain, which are then forgotten; the step
clock starts again. -/
def drain : Step σ δ (List Exchange × List LogEvent) := do
  let w ← get
  set { w with exchanges := [], events := [], elapsed := 0 }
  pure (w.exchanges, w.events)

end AccountRegistry.Remote
