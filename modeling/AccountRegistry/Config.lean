import AccountRegistry.Account
import AccountRegistry.Net.Address
import AccountRegistry.Number.Text
import AccountRegistry.Text.Case
import AccountRegistry.Text.Unicode

/-!
The server's settings, read from environment variables.

Variables are read in a fixed order and the first problem ends the reading: the database
address (falling back to a second name), the listening host, port and per-call timeout,
then the identity provider's settings, then the error-reporting rates. The two password
suffixes must be at least six bytes long and must not contain, in any letter case, a
pattern typical of placeholder text.
-/

set_option autoImplicit false

namespace AccountRegistry

/-- A set of environment variables; the first binding of a name counts. -/
structure Environment where
  vars : List (String × String)
  deriving Repr, Inhabited

/-- The value of a variable, if it is set. -/
def Environment.get? (env : Environment) (name : String) : Option String :=
  (env.vars.find? (·.1 == name)).map (·.2)

/-- The variables the settings are read from. -/
def Environment.names : List String :=
  ["IDENTITY_DATABASE_URL", "DATABASE_URL", "IDENTITY_HOST", "IDENTITY_PORT", "IDENTITY_CALL_TIMEOUT_SECS",
   "AWS_REGION", "COGNITO_REGION", "COGNITO_USER_POOL_ID", "COGNITO_CLIENT_ID", "COGNITO_GROUP_USER",
   "COGNITO_GROUP_ADMIN", "COGNITO_PASSWORD_SUFFIX", "COGNITO_TEMP_PASSWORD_SUFFIX", "COGNITO_ANONYMOUS_USERNAME",
   "COGNITO_ANONYMOUS_PASSWORD", "SENTRY_DSN", "SENTRY_ENVIRONMENT", "SENTRY_SAMPLE_RATE",
   "SENTRY_TRACES_SAMPLE_RATE"]

/-- Why the settings could not be read. -/
inductive ConfigError where
  | missing (name : String)
  | invalid (name detail : String)
  | insecure (name detail : String)
  deriving DecidableEq, Repr

namespace ConfigError

/-- The variant's name. -/
def variantName : ConfigError → String
  | .missing _ => "MissingEnvVar"
  | .invalid _ _ => "InvalidEnvVar"
  | .insecure _ _ => "InsecureSecret"

/-- The human-readable text. -/
def message : ConfigError → String
  | .missing n => "Missing environment variable: " ++ n
  | .invalid n d => "Invalid environment variable " ++ n ++ ": " ++ d
  | .insecure n d => "Insecure secret in " ++ n ++ ": " ++ d

/-- The diagnostic form. -/
def debugText : ConfigError → String
  | .missing n => "MissingEnvVar(" ++ Text.debugQuote n ++ ")"
  | .invalid n d => "InvalidEnvVar(" ++ Text.debugQuote n ++ ", " ++ Text.debugQuote d ++ ")"
  | .insecure n d => "InsecureSecret(" ++ Text.debugQuote n ++ ", " ++ Text.debugQuote d ++ ")"

end ConfigError

/-- The identity provider's settings. -/
structure ProviderConfig where
  region : String
  userPoolId : String
  clientId : String
  groupUser : String
  groupAdmin : String
  passwordSuffix : String
  tempPasswordSuffix : String
  anonymousUsername : String
  anonymousPassword : String
  deriving DecidableEq, Repr, Inhabited

namespace ProviderConfig

/-- The provider group an account kind belongs to. -/
def groupFor (c : ProviderConfig) : AccountKind → String
  | .customer => c.groupUser
  | .adminUser => c.groupAdmin

/-- The diagnostic form; the three secrets are hidden. -/
def debugText (c : ProviderConfig) : String :=
  let q := Text.debugQuote
  let hidden := q "[REDACTED]"
  "CognitoConfig \x7b region: " ++ q c.region ++
  ", user_pool_id: " ++ q c.userPoolId ++ ", client_id: " ++ q c.clientId ++
  ", group_user: " ++ q c.groupUser ++ ", group_admin: " ++ q c.groupAdmin ++
  ", password_suffix: " ++ hidden ++ ", temp_password_suffix: " ++ hidden ++
  ", anonymous_username: " ++ q c.anonymousUsername ++ ", anonymous_password: " ++ hidden ++ " \x7d"

end ProviderConfig

/-- The server's settings. -/
structure ServerConfig where
  databaseUrl : String
  host : Net.IpAddress
  port : Nat
  callTimeoutSecs : Nat
  provider : ProviderConfig
  sentryDsn : Option String
  sentryEnvironment : Option String
  sampleRate : BinaryValue
  tracesSampleRate : BinaryValue
  deriving Repr

namespace ServerConfig

/-- The address the server listens on. -/
def socketText (c : ServerConfig) : String := c.host.socketText c.port

end ServerConfig

/-- The longest accepted call timeout, in seconds. -/
def maxCallTimeoutSecs : Nat := 3600

/-- The shortest accepted password suffix, in bytes. -/
def minSuffixBytes : Nat := 6

/-- Fragments that mark a secret as placeholder text, in the order they are looked for. -/
def placeholderPatterns : List String :=
  ["your-", "changeme", "replace", "placeholder", "example", "xxx", "todo", "fixme", "insert",
   "enter-", "put-your", "add-your"]

/-- Checks a password suffix: long enough, and free of placeholder patterns once lowercased. -/
def checkSuffix (name value : String) : Except ConfigError Unit :=
  if value.utf8ByteSize < minSuffixBytes then
    .error (.insecure name s!"must be at least {minSuffixBytes} characters (got {value.utf8ByteSize})")
  else
    let lower := Text.lowercase value
    match placeholderPatterns.find? (fun p => lower.contains p) with
    | some p => .error (.insecure name ("appears to be a placeholder (contains '" ++ p ++ "')"))
    | none => .ok ()

namespace Environment

/-- A required variable. -/
def require (env : Environment) (name : String) : Except ConfigError String :=
  match env.get? name with
  | some v => .ok v
  | none => .error (.missing name)

/-- The database address, from its own name or the shared fallback. -/
def databaseUrl (env : Environment) : Except ConfigError String :=
  match env.get? "IDENTITY_DATABASE_URL" <|> env.get? "DATABASE_URL" with
  | some v => .ok v
  | none => .error (.missing "IDENTITY_DATABASE_URL")

/-- A rate between 0 and 1 inclusive, with its default. -/
def rate (env : Environment) (name : String) (default : BinaryValue) : Except ConfigError BinaryValue :=
  match env.get? name with
  | none => .ok default
  | some raw =>
    match readFloat BinaryFormat.single raw with
    | .error e => .error (.invalid name e.message)
    | .ok v =>
      let inRange := match v with
        | .finite n m _ =>
          -- zero of either sign, or a positive value at most 1
          m = 0 || (!n && (match v.magnitude? with
            | some r => r.num ≤ r.den
            | none => false))
        | _ => false
      if inRange then .ok v
      else .error (.invalid name ("must be between 0.0 and 1.0 (got " ++ v.text BinaryFormat.single ++ ")"))

/-- The identity provider's settings. -/
def providerConfig (env : Environment) : Except ConfigError ProviderConfig := do
  let region ← match env.get? "COGNITO_REGION" <|> env.get? "AWS_REGION" with
    | some v => pure v
    | none => throw (.missing "COGNITO_REGION")
  let userPoolId ← env.require "COGNITO_USER_POOL_ID"
  let clientId ← env.require "COGNITO_CLIENT_ID"
  let groupUser ← env.require "COGNITO_GROUP_USER"
  let groupAdmin ← env.require "COGNITO_GROUP_ADMIN"
  let suffix ← env.require "COGNITO_PASSWORD_SUFFIX"
  checkSuffix "COGNITO_PASSWORD_SUFFIX" suffix
  let tempSuffix ← env.require "COGNITO_TEMP_PASSWORD_SUFFIX"
  checkSuffix "COGNITO_TEMP_PASSWORD_SUFFIX" tempSuffix
  pure { region := region, userPoolId := userPoolId, clientId := clientId, groupUser := groupUser,
         groupAdmin := groupAdmin, passwordSuffix := suffix, tempPasswordSuffix := tempSuffix,
         anonymousUsername := (env.get? "COGNITO_ANONYMOUS_USERNAME").getD "unknown-user",
         anonymousPassword := (env.get? "COGNITO_ANONYMOUS_PASSWORD").getD "unknown-user" }

/-- The server's settings. -/
def serverConfig (env : Environment) : Except ConfigError ServerConfig := do
  let url ← env.databaseUrl
  let hostText := (env.get? "IDENTITY_HOST").getD "127.0.0.1"
  let host ← match Net.IpAddress.parse? hostText with
    | some h => pure h
    | none => throw (.invalid "IDENTITY_HOST" "invalid IP address syntax")
  let port ← match readUnsigned 65535 ((env.get? "IDENTITY_PORT").getD "3210") with
    | .ok p => pure p
    | .error e => throw (.invalid "IDENTITY_PORT" e.message)
  let secs ← match readUnsigned (Nat.pow 2 64 - 1) ((env.get? "IDENTITY_CALL_TIMEOUT_SECS").getD "10") with
    | .ok s => pure s
    | .error e => throw (.invalid "IDENTITY_CALL_TIMEOUT_SECS" e.message)
  if secs = 0 || secs > maxCallTimeoutSecs then
    throw (.invalid "IDENTITY_CALL_TIMEOUT_SECS" s!"must be between 1 and {maxCallTimeoutSecs}, got {secs}")
  let provider ← env.providerConfig
  let dsn := env.get? "SENTRY_DSN"
  let environment := env.get? "SENTRY_ENVIRONMENT"
  let sample ← env.rate "SENTRY_SAMPLE_RATE" (BinaryValue.ofNat BinaryFormat.single 1)
  let traces ← env.rate "SENTRY_TRACES_SAMPLE_RATE" (BinaryValue.ofNat BinaryFormat.single 0)
  pure { databaseUrl := url, host := host, port := port, callTimeoutSecs := secs, provider := provider,
         sentryDsn := dsn, sentryEnvironment := environment, sampleRate := sample,
         tracesSampleRate := traces }

end Environment

end AccountRegistry
