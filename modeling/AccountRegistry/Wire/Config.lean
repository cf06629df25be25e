import AccountRegistry.Wire.Basic
import AccountRegistry.Config

/-!
Answers for reading the server's settings from a set of variables.
-/

set_option autoImplicit false

namespace AccountRegistry.Wire

/-- The variables a request sets; a null value leaves the name unset. -/
def environmentOf (j : Json) : Environment :=
  ⟨(j.getObj?.getD []).filterMap fun (k, v) => v.getStr?.map (k, ·)⟩

/-- The answer for a configuration failure. -/
def configFailure (e : ConfigError) : Json := failure e.variantName e.message

/-- The provider settings as reported. -/
def providerReport (p : ProviderConfig) : Json :=
  .obj [("region", .str p.region), ("user_pool_id", .str p.userPoolId), ("client_id", .str p.clientId),
    ("group_user", .str p.groupUser), ("group_admin", .str p.groupAdmin),
    ("password_suffix", .str p.passwordSuffix), ("temp_password_suffix", .str p.tempPasswordSuffix),
    ("anonymous_username", .str p.anonymousUsername), ("anonymous_password", .str p.anonymousPassword),
    ("group_for_customer", .str (p.groupFor .customer)), ("group_for_admin_user", .str (p.groupFor .adminUser)),
    ("debug", .str p.debugText)]

/-- Reads the settings, or only the database address. -/
def configAnswer (req : Json) : Json :=
  let env := environmentOf ((req.field? "env").getD (.obj []))
  match req.strField? "fn" with
  | some "database_url" =>
    match env.databaseUrl with
    | .ok u => .obj [("database_url", .str u)]
    | .error e => configFailure e
  | _ =>
    match env.serverConfig with
    | .error e => configFailure e
    | .ok c =>
      .obj [("database_url", .str c.databaseUrl), ("host", .str c.host.text), ("port", .int c.port),
        ("socket_addr", .str c.socketText), ("call_timeout_secs", .int c.callTimeoutSecs),
        ("cognito", providerReport c.provider), ("sentry_dsn", Json.ofOption c.sentryDsn),
        ("sentry_environment", Json.ofOption c.sentryEnvironment),
        ("sentry_sample_rate", .str (c.sampleRate.text BinaryFormat.single)),
        ("sentry_traces_sample_rate", .str (c.tracesSampleRate.text BinaryFormat.single))]

end AccountRegistry.Wire
