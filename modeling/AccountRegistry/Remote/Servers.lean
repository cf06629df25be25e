import AccountRegistry.Account
import AccountRegistry.Json.Value

/-!
What the services send to the database and to the user directory, and what they read back.

The account store sends one statement per operation and reads an answer or a refusal; the
migrator reads the history of migrations, runs the schema script and records it. The identity
provider sends four kinds of request to the directory through its client, which gives the
reply's content or a failure of the call.

The services are written against `DatabaseServer` and `DirectoryServer`: the operations a
server offers, over whatever state it keeps. What a server is trusted to do is a hypothesis of
the statements that need it, never part of these structures.
-/

set_option autoImplicit false

namespace AccountRegistry.Remote

/-! ## The database -/

/-- A row as the database holds it; the tax id is kept exactly as written. -/
structure Row where
  id : Int
  name : String
  cpf : String
  email : String
  deriving DecidableEq, Repr

/-- A row of the migration history; the checksum is in lowercase hex. -/
structure MigrationRow where
  version : Int
  description : String
  success : Bool
  checksum : String
  deriving DecidableEq, Repr

/-- How a statement fails: with a server error, or by being held for some milliseconds and
then cancelled. -/
inductive Refusal where
  | error (code message : String)
  | stall (ms : Nat)
  deriving DecidableEq, Repr

/-- The statements the account store sends. -/
inductive Statement where
  | insert (kind : AccountKind) (name cpf email : String)
  | update (kind : AccountKind) (id : Int) (name cpf email : String)
  | selectById (kind : AccountKind) (id : Int)
  | selectByCpf (kind : AccountKind) (cpf : String)
  | ping
  deriving DecidableEq, Repr

namespace Statement

/-- The name of the store operation a statement serves. -/
def target : Statement → String
  | .insert .. => "insert"
  | .update .. => "update"
  | .selectById .. => "find_by_id"
  | .selectByCpf .. => "find_by_tax_id"
  | .ping => "ping"

/-- The table a statement reads or writes. -/
def table? : Statement → Option AccountKind
  | .insert k .. | .update k .. | .selectById k _ | .selectByCpf k _ => some k
  | .ping => none

end Statement

/-- What a statement answers. -/
inductive Answer where
  | rows (rs : List Row)
  | inserted (id : Int)
  | affected (n : Nat)
  deriving DecidableEq, Repr

/-- The code of a unique-constraint violation. -/
def uniqueViolation : String := "23505"

/-- The code of a cancelled statement. -/
def queryCanceled : String := "57014"

/-- The text of a cancelled statement. -/
def canceledText : String := "canceling statement due to statement timeout"

/-- The migration this program ships: its version, description and checksum. -/
structure Migration where
  version : Int
  description : String
  checksum : String
  deriving DecidableEq, Repr

/-- The one migration: it creates the schema and both tables. -/
def schemaMigration : Migration :=
  ⟨20260301000001, "create identity accounts",
   "e489489c89b15220ac52421e0a1dd3004403ffbb2c4f006631386df5d08917d3dab8f5c5982dd8d28a40dae5a5d43c09"⟩

/-- A database server as the store and the migrator reach it, over the states `σ` it keeps. -/
structure DatabaseServer (σ : Type) where
  /-- The answer to a statement, and the state after it. -/
  run : σ → Statement → Except Refusal Answer × σ
  /-- How every connection attempt is refused, if it is. -/
  connectRefusal : σ → Option Refusal
  /-- The migrations recorded so far. -/
  history : σ → List MigrationRow
  /-- Runs the schema script: whether the script reached the server, its answer, and the
  state after it. -/
  runScript : σ → Bool × Except Refusal Unit × σ
  /-- Records a migration in the history. -/
  record : σ → MigrationRow → σ

/-! ## The user directory -/

/-- The requests the identity provider sends. -/
inductive DirectoryRequest where
  | createUser (pool username temporaryPassword : String) (attributes : List (String × String))
  | setPassword (pool username password : String) (permanent : Bool)
  | addToGroup (pool username group : String)
  | initiateAuth (client username password : String)
  deriving DecidableEq, Repr

namespace DirectoryRequest

/-- The operation's name. -/
def operation : DirectoryRequest → String
  | .createUser .. => "AdminCreateUser"
  | .setPassword .. => "AdminSetUserPassword"
  | .addToGroup .. => "AdminAddUserToGroup"
  | .initiateAuth .. => "InitiateAuth"

/-- The request body. -/
def body : DirectoryRequest → Json
  | .createUser pool user temp attrs =>
    .obj [("MessageAction", .str "SUPPRESS"), ("TemporaryPassword", .str temp),
      ("UserAttributes", .arr (attrs.map fun (k, v) => .obj [("Name", .str k), ("Value", .str v)])),
      ("UserPoolId", .str pool), ("Username", .str user)]
  | .setPassword pool user pw permanent =>
    .obj [("Password", .str pw), ("Permanent", .bool permanent), ("UserPoolId", .str pool), ("Username", .str user)]
  | .addToGroup pool user group =>
    .obj [("GroupName", .str group), ("UserPoolId", .str pool), ("Username", .str user)]
  | .initiateAuth client user pw =>
    .obj [("AuthFlow", .str "USER_PASSWORD_AUTH"),
      ("AuthParameters", .obj [("PASSWORD", .str pw), ("USERNAME", .str user)]), ("ClientId", .str client)]

end DirectoryRequest

/-- How a call through the provider's client fails, with what the provider reads of each
failure: the code and message of an error the service names, else the failure's text. -/
inductive SdkFailure where
  /-- The request could not be built. -/
  | constructionFailure (shown : String)
  /-- The client's own timeout passed. -/
  | timeoutError
  /-- The request was not delivered. -/
  | dispatchFailure (shown : String)
  /-- The reply could not be read; the client reports an error body without a code so. -/
  | responseError (shown : String)
  /-- The service answered with an error that names its code. -/
  | serviceError (code : String) (message : Option String)
  /-- The service answered with an error that names no code. -/
  | unnamedServiceError (shown : String)
  deriving DecidableEq, Repr

/-- A user directory as the identity provider's client reaches it, over the states `δ` it
keeps. -/
structure DirectoryServer (δ : Type) where
  /-- For a request: the milliseconds until its reply, what the client reads of the reply,
  and the state after it. -/
  call : δ → DirectoryRequest → Nat × Except SdkFailure Json × δ

end AccountRegistry.Remote
