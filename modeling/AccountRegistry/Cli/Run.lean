import AccountRegistry.Cli.Args
import AccountRegistry.Remote.World

/-!
What the command line does once its arguments are read. Each command reads its settings
from the environment, reports its progress as log events, and ends with an exit status: 0
on success, 1 after logging `Command failed: ...`. Only the tax-id check prints to standard
output.

`migrate` needs only the database address; the account commands read the whole server
configuration, open the database and wire both services before calling one of them. The
database server and the user directory are parameters of the commands.
-/

set_option autoImplicit false

namespace AccountRegistry.Cli

/-- How a command ended. -/
structure Outcome where
  exitCode : Nat
  stdout : String := ""
  deriving DecidableEq, Repr

/-- The module path of the command line's own failure report. -/
def topTarget : String := "ci_cli"

/-- The module path of the account commands. -/
def accountTarget : String := "ci_cli::commands::account"

/-- The module path of the migration command. -/
def migrateTarget : String := "ci_cli::commands::migrate"

section Commands

variable {σ δ : Type}

/-- Logs a progress message. -/
def say (target message : String) : Remote.Step σ δ Unit :=
  Remote.journal.emit { level := .info, target := target, message := message }

/-- Logs a command failure and ends with status 1. -/
def fail (message : String) : Remote.Step σ δ Outcome := do
  Remote.journal.emit { level := .error, target := topTarget, message := "Command failed: " ++ message }
  pure ⟨1, ""⟩

/-- Migrates the database at the configured address. -/
def migrateCommand (db : Remote.DatabaseServer σ) (env : Environment) : Remote.Step σ δ Outcome := do
  match env.databaseUrl with
  | .error e => fail ("Configuration error: " ++ e.message)
  | .ok url =>
    say migrateTarget "Connecting to identity database..."
    match ← Remote.connect db env.get? url with
    | .error f => fail ("Database error: " ++ f.message)
    | .ok () =>
      say migrateTarget "Running identity migrations..."
      match ← Remote.migrate db with
      | .error m => fail ("Migration error: " ++ m.message)
      | .ok () =>
        say migrateTarget "Identity migrations complete!"
        pure ⟨0, ""⟩

/-- Reads the configuration, opens the database and wires the services, then runs `k`. -/
def withServices (db : Remote.DatabaseServer σ) (dir : Remote.DirectoryServer δ) (env : Environment)
    (k : ServerConfig → Http.App (Remote.Step σ δ) → Remote.Step σ δ Outcome) : Remote.Step σ δ Outcome := do
  match env.serverConfig with
  | .error e => fail ("Configuration error: " ++ e.message)
  | .ok cfg =>
    say accountTarget "Connecting to identity database..."
    match ← Remote.connect db env.get? cfg.databaseUrl with
    | .error f => fail ("Database connection error: " ++ f.message)
    | .ok () =>
      Remote.journal.emit (Remote.providerReady cfg.provider)
      k cfg (Remote.app db dir cfg.provider cfg.callTimeoutSecs)

/-- The one-line summary of an account. -/
def summary (kind : AccountKind) (a : Account) : String :=
  kind.label ++ " " ++ a.id.display ++ ": " ++ a.name ++ " <" ++ a.email ++ "> CPF " ++ a.cpf.masked

/-- Runs a command against a database and a directory. -/
def execute (db : Remote.DatabaseServer σ) (dir : Remote.DirectoryServer δ) (env : Environment) :
    Command → Remote.Step σ δ Outcome
  | .migrate => migrateCommand db env
  | .create kind name cpf email => withServices db dir env fun cfg app => do
    let ctx := CallContext.withTimeoutSecs {} cfg.callTimeoutSecs
    say accountTarget ("Creating " ++ kind.label ++ ": " ++ name ++ " <" ++ email ++ ">")
    match ← (app.service kind).create ctx { name := name, cpf := cpf, email := email } with
    | .error f => fail f.display
    | .ok id =>
      say accountTarget (kind.label ++ " created successfully! ID: " ++ id.display)
      pure ⟨0, ""⟩
  | .show kind cpf => withServices db dir env fun cfg app => do
    let ctx := CallContext.withTimeoutSecs {} cfg.callTimeoutSecs
    match ← (app.service kind).getByTaxId ctx cpf with
    | .error f => fail f.display
    | .ok a =>
      say accountTarget (summary kind a)
      pure ⟨0, ""⟩
  | .checkCpf v =>
    match Cpf.parse v with
    | .ok c => pure ⟨0, c.digits ++ " valid (" ++ c.formatted ++ ")\n"⟩
    | .error e => do
      let o ← fail e.message
      pure { o with stdout := Cpf.normalize v ++ " invalid: " ++ e.message ++ "\n" }

end Commands

end AccountRegistry.Cli
