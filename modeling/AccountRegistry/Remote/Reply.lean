import AccountRegistry.Remote.Body
import AccountRegistry.Remote.Directory
/-!
# Reading directory replies

A successful reply is read against the shape of the operation's output (see `Remote.Body`);
an operation without output has its body ignored.

An error reply yields its error code and message, read from the token stream of its body
(see `Remote.Tokens`): from a top-level object, the string values of `code` (before
`__type`) and of `message`, `Message` or `errorMessage`, keys compared as written. A value
that does not decode, a malformed token, or anything after the object fails as invalid
input. A body that is not an object yields neither. When the code names an error the
operation declares, the whole body is then read against that error's shape.
-/

set_option autoImplicit false

namespace AccountRegistry.Remote

/-- Skips one value of a token stream at `depth` zero, or the rest of the open arrays and
objects up to the one that closes at this depth. -/
def skipTokens : Nat → Nat → TokenStream → Except String TokenStream
  | 0, _, s => .ok s
  | fuel + 1, depth, s =>
    match s with
    | .ok .startObject :: rest | .ok .startArray :: rest => do
      let rest' ← skipTokens fuel (depth + 1) rest
      if depth == 0 then pure rest' else skipTokens fuel depth rest'
    | .ok .endObject :: rest | .ok .endArray :: rest => .ok rest
    | .ok (.key _) :: rest => skipTokens fuel depth rest
    | .ok _ :: rest => if depth == 0 then .ok rest else skipTokens fuel depth rest
    | .error e :: _ => .error e.text
    | [] => .error "failed to parse JSON: expected value"

/-- The error code and message found so far in an error body. -/
structure ErrorFields where
  code : Option String := none
  type : Option String := none
  message : Option String := none

/-- Records the string value of a key of an error body, if it is one that names the code, the
type or the message. -/
def ErrorFields.note (f : ErrorFields) (key escaped : String) : Except ReplyFailure ErrorFields :=
  if key == "code" || key == "__type" || key == "message" || key == "Message" || key == "errorMessage" then
    match unescape escaped with
    | .error e => .error (.invalidInput ("malformed string in error body '" ++ key ++ "': " ++ e.text))
    | .ok v =>
      if key == "code" then .ok { f with code := some v }
      else if key == "__type" then .ok { f with type := some v }
      else .ok { f with message := some v }
  else .ok f

/-- Reads the members of an error body's object up to its end, and checks that nothing
follows it. -/
def errorMembers : Nat → ErrorFields → TokenStream → Except ReplyFailure ErrorFields
  | 0, f, _ => .ok f
  | fuel + 1, f, s =>
    match s with
    | .ok .endObject :: rest => if rest.isEmpty then .ok f else .error trailing
    | .ok (.key k) :: rest => do
      let f' ← match rest with
        | .ok (.text v) :: _ => f.note k v
        | _ => pure f
      match skipTokens fuel 0 rest with
      | .ok rest' => errorMembers fuel f' rest'
      | .error m => .error (.invalidInput ("malformed JSON error body while skipping value: " ++ m))
    | .error e :: _ => .error (.invalidInput ("malformed JSON error body: " ++ e.text))
    | _ => .error (.invalidInput "expected object key or end object")

/-- The error code (`code`, else `__type`) and message of an error reply's body. -/
def errorMetadata (body : String) : Except ReplyFailure (Option String × Option String) :=
  let s := tokenize body
  match s with
  | .error e :: _ => .error (.invalidInput ("malformed JSON error body: " ++ e.text))
  | .ok .startObject :: rest => do
    let f ← errorMembers (s.length + 1) {} rest
    pure (f.code.orElse fun _ => f.type, f.message)
  | _ => .ok (none, none)

/-! ## Output shapes -/

/-- The result of a successful login. -/
def authenticationResultShape : Shape :=
  .record [("AccessToken", .text), ("ExpiresIn", .integer), ("TokenType", .text), ("RefreshToken", .text),
    ("IdToken", .text), ("NewDeviceMetadata", .record [("DeviceKey", .text), ("DeviceGroupKey", .text)])]

/-- The user record of a created account. -/
def userShape : Shape :=
  .record [("Username", .text), ("Attributes", .list (.record [("Name", .text), ("Value", .text)])),
    ("UserCreateDate", .timestamp), ("UserLastModifiedDate", .timestamp), ("Enabled", .boolean),
    ("UserStatus", .text), ("MFAOptions", .list (.record [("DeliveryMedium", .text), ("AttributeName", .text)]))]

/-- The output members of a request, or `none` for an operation without output, whose body
is not read. -/
def DirectoryRequest.replyShape : DirectoryRequest → Option (List (String × Shape))
  | .initiateAuth .. =>
    some [("ChallengeName", .text), ("Session", .text), ("ChallengeParameters", .map .text),
      ("AuthenticationResult", authenticationResultShape), ("AvailableChallenges", .list .text)]
  | .createUser .. => some [("User", userShape)]
  | .setPassword .. => some []
  | .addToGroup .. => none

/-! ## Declared errors -/

/-- The errors every operation here declares. -/
def commonErrors : List String :=
  ["InternalErrorException", "InvalidParameterException", "NotAuthorizedException", "ResourceNotFoundException",
   "TooManyRequestsException", "UserNotFoundException"]

/-- The errors a request's operation declares, by code. -/
def DirectoryRequest.declaredErrors : DirectoryRequest → List String
  | .initiateAuth .. =>
    commonErrors ++ ["ForbiddenException", "InvalidEmailRoleAccessPolicyException", "InvalidLambdaResponseException",
      "InvalidSmsRoleAccessPolicyException", "InvalidSmsRoleTrustRelationshipException",
      "InvalidUserPoolConfigurationException", "PasswordResetRequiredException", "UnexpectedLambdaException",
      "UserLambdaValidationException", "UserNotConfirmedException"]
  | .createUser .. =>
    commonErrors ++ ["CodeDeliveryFailureException", "InvalidLambdaResponseException", "InvalidPasswordException",
      "InvalidSmsRoleAccessPolicyException", "InvalidSmsRoleTrustRelationshipException", "PreconditionNotMetException",
      "UnexpectedLambdaException", "UnsupportedUserStateException", "UserLambdaValidationException",
      "UsernameExistsException"]
  | .setPassword .. => commonErrors ++ ["InvalidPasswordException", "PasswordHistoryPolicyViolationException"]
  | .addToGroup .. => commonErrors

/-- The members of a declared error's body, or `none` for an error the operation does not
declare. -/
def DirectoryRequest.errorShape (r : DirectoryRequest) (code : String) : Option (List (String × Shape)) :=
  if r.declaredErrors.contains code then
    some (if code == "InvalidParameterException" then [("message", .text), ("reasonCode", .text)]
      else [("message", .text)])
  else none

end AccountRegistry.Remote
