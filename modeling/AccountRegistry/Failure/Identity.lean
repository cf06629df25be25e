import AccountRegistry.Failure

/-!
Failures of the identity provider and their classification. A provider error code is
sorted by its name with one trailing `Exception` removed, compared case-sensitively.
-/

set_option autoImplicit false

namespace AccountRegistry

/-- Why a call to the identity provider failed. -/
inductive IdentityFailure where
  /-- The provider could not be reached, or its answer could not be read. -/
  | transport (detail : String)
  /-- The call did not finish before the deadline. -/
  | timeout
  /-- The credentials were refused. -/
  | rejected (code message : String)
  /-- The identity exists already. -/
  | conflict (message : String)
  /-- A parameter was refused. -/
  | invalid (code message : String)
  /-- The provider asks the caller to slow down. -/
  | throttled (code message : String)
  /-- Any other error the provider reports. -/
  | service (code message : String)
  /-- The provider answered a login without an access token. -/
  | missingToken
  /-- The request could not be built. -/
  | request (detail : String)
  deriving DecidableEq, Repr

namespace IdentityFailure

/-- The human-readable text. -/
def message : IdentityFailure → String
  | .transport d => "identity provider unreachable: " ++ d
  | .timeout => "identity provider call timed out"
  | .rejected c m => "authentication rejected (" ++ c ++ "): " ++ m
  | .conflict m => "identity already exists: " ++ m
  | .invalid c m => "invalid parameter (" ++ c ++ "): " ++ m
  | .throttled c m => "identity provider throttled (" ++ c ++ "): " ++ m
  | .service c m => "identity provider error (" ++ c ++ "): " ++ m
  | .missingToken => "identity provider returned no access token"
  | .request d => "invalid identity provider request: " ++ d

/-- The name of an error code without one trailing `Exception`. -/
def codeName (code : String) : String :=
  if code.endsWith "Exception" then String.ofList (code.toList.take (code.length - 9)) else code

/-- Sorts a provider error code; the failure keeps the full code. -/
def ofCode (code message : String) : IdentityFailure :=
  match codeName code with
  | "NotAuthorized" | "UserNotFound" | "PasswordResetRequired" | "UserNotConfirmed" =>
    .rejected code message
  | "UsernameExists" | "AliasExists" => .conflict message
  | "InvalidParameter" | "InvalidPassword" => .invalid code message
  | "TooManyRequests" | "LimitExceeded" => .throttled code message
  | _ => .service code message

/-- The kind each failure is classified as. -/
def kind : IdentityFailure → FailureKind
  | .transport _ | .timeout | .throttled _ _ => .unavailable
  | .rejected _ _ => .unauthorized
  | .conflict _ => .conflict
  | .invalid _ _ => .validation
  | .service _ _ | .missingToken => .remoteFailure
  | .request _ => .unknown

/-- The classified failure: its kind, with the full text as message. -/
def classify (e : IdentityFailure) : Failure := Failure.make e.kind e.message

instance : Classify IdentityFailure := ⟨classify⟩

/-- The variant's name. -/
def variantName : IdentityFailure → String
  | .transport _ => "Transport"
  | .timeout => "Timeout"
  | .rejected _ _ => "Rejected"
  | .conflict _ => "Conflict"
  | .invalid _ _ => "Invalid"
  | .throttled _ _ => "Throttled"
  | .service _ _ => "Service"
  | .missingToken => "MissingToken"
  | .request _ => "Request"

/-- The provider's error code, for the variants that carry one. -/
def code? : IdentityFailure → Option String
  | .rejected c _ | .invalid c _ | .throttled c _ | .service c _ => some c
  | _ => none

/-- The detail text, for the variants that carry one. -/
def detail? : IdentityFailure → Option String
  | .transport d | .request d | .conflict d => some d
  | .rejected _ m | .invalid _ m | .throttled _ m | .service _ m => some m
  | .timeout | .missingToken => none

end IdentityFailure

end AccountRegistry
