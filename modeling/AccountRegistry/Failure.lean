import AccountRegistry.Log

/-!
Classified failures: every failure that leaves an account service carries one of seven
kinds, the status a transport should answer with, a message, and the component it was
first attributed to. Classification happens once, at the layer that understands the
failure; layers above may only add an attribution, and the first one stays.
-/

set_option autoImplicit false

namespace AccountRegistry

/-- The business category of a failure. -/
inductive FailureKind where
  | validation
  | conflict
  | notFound
  | unauthorized
  | remoteFailure
  | unavailable
  | unknown
  deriving DecidableEq, Repr, Inhabited

namespace FailureKind

/-- Every kind, in declaration order. -/
def all : List FailureKind :=
  [.validation, .conflict, .notFound, .unauthorized, .remoteFailure, .unavailable, .unknown]

/-- The status a transport answers with. -/
def status : FailureKind → Nat
  | .validation => 400
  | .unauthorized => 401
  | .notFound => 404
  | .conflict => 409
  | .unknown => 500
  | .remoteFailure => 502
  | .unavailable => 503

/-- The kind's name in upper case with underscores. -/
def name : FailureKind → String
  | .validation => "VALIDATION"
  | .conflict => "CONFLICT"
  | .notFound => "NOT_FOUND"
  | .unauthorized => "UNAUTHORIZED"
  | .remoteFailure => "REMOTE_FAILURE"
  | .unavailable => "UNAVAILABLE"
  | .unknown => "UNKNOWN"

/-- A kind is the server's fault when its status is 500 or above. -/
def isServerError (k : FailureKind) : Bool := k.status ≥ 500

/-- Reads a name back. -/
def ofName? (s : String) : Option FailureKind := all.find? (·.name == s)

end FailureKind

/-- A classified failure. -/
structure Failure where
  kind : FailureKind
  status : Nat
  message : String
  component : Option String
  deriving DecidableEq, Repr, Inhabited

namespace Failure

/-- A failure of a kind, with the kind's status and no attribution. -/
def make (kind : FailureKind) (message : String) : Failure :=
  { kind := kind, status := kind.status, message := message, component := none }

/-- Stamps a component unless one is already stamped. -/
def attributed (f : Failure) (component : String) : Failure :=
  match f.component with
  | some _ => f
  | none => { f with component := some component }

/-- The text `[KIND] message`. -/
def display (f : Failure) : String := "[" ++ f.kind.name ++ "] " ++ f.message

end Failure

/-- Failures of a layer that can be sorted into the taxonomy. -/
class Classify (ε : Type) where
  classify : ε → Failure

instance : Classify Failure := ⟨id⟩

/-! ## Attribution

Attribution: a failure is stamped with the component that reports it, unless a lower
layer stamped it first, and is logged once: at error level with "Request failed" when it
is the server's fault, else at warning level with "Request rejected".
-/

/-- The module path of attribution events. -/
def attributionTarget : String := "customer_identity_server::classify"

/-- The event that reports an attributed failure. -/
def Failure.attributionEvent (f : Failure) (stamped : String) : LogEvent :=
  let fields : List (String × FieldValue) :=
    [("kind", .shown f.kind.name), ("component", .shown stamped), ("status", .count f.status),
     ("error", .shown f.message)]
  if f.kind.isServerError then
    { level := .error, target := attributionTarget, message := "Request failed", fields := fields }
  else
    { level := .warn, target := attributionTarget, message := "Request rejected", fields := fields }

/-- Stamps `component` on a failure and gives the event that reports it. -/
def Failure.attributeTo (f : Failure) (component : String) : Failure × LogEvent :=
  let g := f.attributed component
  (g, g.attributionEvent (g.component.getD component))

end AccountRegistry
