import AccountRegistry.Text.Unicode
import AccountRegistry.Failure

/-!
Failures of the account store and of the database driver beneath it, with their texts
and their classification. A store failure is classified by cause: a missing row, a
constraint, a timeout; driver faults and corrupt rows are the server's fault and keep
their full text.
-/

set_option autoImplicit false

namespace AccountRegistry

/-- A fault reported by the database driver. -/
inductive DatabaseFault where
  /-- The connection settings could not be used; `debug` is the cause's diagnostic form. -/
  | configuration (display debug : String)
  /-- The server answered with an error. -/
  | server (code message : String)
  /-- The connection failed. -/
  | io (detail : String)
  /-- The server sent data the driver could not read. -/
  | protocol (detail : String)
  | rowNotFound
  | typeNotFound (name : String)
  | columnIndexOutOfBounds (index len : Nat)
  | columnNotFound (name : String)
  /-- A column's value could not be turned into the requested type. -/
  | columnDecode (index : Nat) (detail : String)
  /-- An encrypted connection could not be set up. -/
  | tls (detail : String)
  | poolTimedOut
  | poolClosed
  | workerCrashed
  | savePoint
  | beginFailed
  | invalidArgument (detail : String)
  deriving DecidableEq, Repr

namespace DatabaseFault

/-- The human-readable text. -/
def message : DatabaseFault → String
  | .configuration d _ => "error with configuration: " ++ d
  | .server _ m => "error returned from database: " ++ m
  | .io d => "error communicating with database: " ++ d
  | .protocol d => "encountered unexpected or invalid data: " ++ d
  | .rowNotFound => "no rows returned by a query that expected to return at least one row"
  | .typeNotFound n => "type named " ++ n ++ " not found"
  | .columnIndexOutOfBounds i n =>
    "column index out of bounds: the len is " ++ toString n ++ ", but the index is " ++ toString i
  | .columnNotFound n => "no column found for name: " ++ n
  | .columnDecode i d => "error occurred while decoding column " ++ toString i ++ ": " ++ d
  | .tls d => "error occurred while attempting to establish a TLS connection: " ++ d
  | .poolTimedOut => "pool timed out while waiting for an open connection"
  | .poolClosed => "attempted to acquire a connection on a closed pool"
  | .workerCrashed => "attempted to communicate with a crashed background worker"
  | .savePoint => "attempted to call begin_with at non-zero transaction depth"
  | .beginFailed => "got unexpected connection status after attempting to begin transaction"
  | .invalidArgument d => d

/-- A quoted text in diagnostic form. -/
def quoted (s : String) : String := Text.debugQuote s

/-- The diagnostic form, as a failed expectation reports it. -/
def debugText : DatabaseFault → String
  | .configuration _ d => "Configuration(" ++ d ++ ")"
  | .server c m =>
    "Database(PgDatabaseError \x7b severity: Error, code: " ++ quoted c ++ ", message: " ++ quoted m ++
    ", detail: None, hint: None, position: None, where: None, schema: None, table: None, " ++
    "column: None, data_type: None, constraint: None, file: None, line: None, routine: None \x7d)"
  | .io d => "Io(" ++ d ++ ")"
  | .protocol d => "Protocol(" ++ quoted d ++ ")"
  | .rowNotFound => "RowNotFound"
  | .typeNotFound n => "TypeNotFound \x7b type_name: " ++ quoted n ++ " \x7d"
  | .columnIndexOutOfBounds i n =>
    "ColumnIndexOutOfBounds \x7b index: " ++ toString i ++ ", len: " ++ toString n ++ " \x7d"
  | .columnNotFound n => "ColumnNotFound(" ++ quoted n ++ ")"
  | .columnDecode i d => "ColumnDecode \x7b index: " ++ quoted (toString i) ++ ", source: " ++ d ++ " \x7d"
  | .tls d => "Tls(" ++ quoted d ++ ")"
  | .poolTimedOut => "PoolTimedOut"
  | .poolClosed => "PoolClosed"
  | .workerCrashed => "WorkerCrashed"
  | .savePoint => "InvalidSavePointStatement"
  | .beginFailed => "BeginFailed"
  | .invalidArgument d => "InvalidArgument(" ++ quoted d ++ ")"

end DatabaseFault

/-- Why an account store operation failed. -/
inductive StoreFailure where
  | database (fault : DatabaseFault)
  /-- A stored row does not hold a valid account. -/
  | dataCorruption (detail : String)
  | notFound
  /-- A uniqueness or check constraint refused the write. -/
  | conflict (detail : String)
  | timeout
  deriving DecidableEq, Repr

namespace StoreFailure

/-- The human-readable text. -/
def message : StoreFailure → String
  | .database f => "database error: " ++ f.message
  | .dataCorruption d => "data corruption: " ++ d
  | .notFound => "not found"
  | .conflict d => "constraint violation: " ++ d
  | .timeout => "query timed out"

/-- The classified failure. -/
def classify : StoreFailure → Failure
  | .notFound => Failure.make .notFound "account not found"
  | .conflict d => Failure.make .conflict d
  | .timeout => Failure.make .unavailable "account store timed out"
  | e => Failure.make .unknown e.message

instance : Classify StoreFailure := ⟨classify⟩

/-- The variant's name. -/
def variantName : StoreFailure → String
  | .database _ => "Database"
  | .dataCorruption _ => "DataCorruption"
  | .notFound => "NotFound"
  | .conflict _ => "Conflict"
  | .timeout => "Timeout"

end StoreFailure

end AccountRegistry
