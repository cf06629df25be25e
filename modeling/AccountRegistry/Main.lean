import AccountRegistry.Cli.Run
import AccountRegistry.Remote.Database
import AccountRegistry.Remote.Client
import AccountRegistry.Log.Filter
import AccountRegistry.Log.Format

/-!
The command line as a program: it reads its arguments and the variables of its settings,
runs the command against a database and user directory held in the process, prints the
command's output, writes its log lines to standard error through the `RUST_LOG` filter,
and exits with the command's status.
-/

namespace AccountRegistry

/-- Reads the variables the command line uses. -/
def readEnvironment : IO Environment := do
  let mut vars : List (String × String) := []
  for name in Environment.names ++ ["RUST_LOG"] do
    if let some v ← IO.getEnv name then
      vars := vars ++ [(name, v)]
  pure ⟨vars⟩

end AccountRegistry

open AccountRegistry in
/-- Runs the command line. -/
def main (args : List String) : IO UInt32 := do
  let env ← readEnvironment
  let program : Remote.Step Remote.Database Remote.Directory Cli.Outcome :=
    match Cli.invoke args with
    | .print t => pure ⟨0, t⟩
    | .usageError => pure ⟨2, ""⟩
    | .run c => Cli.execute Remote.Database.server Remote.Directory.server env c
  let (outcome, world) := program.run { database := {}, directory := {} }
  let filter := match env.get? "RUST_LOG" with
    | some s => LogFilter.parseLossy s
    | none => LogFilter.errorsOnly
  for e in world.events.filterMap (filter.apply ·) do
    IO.eprintln e.textLine
  IO.print outcome.stdout
  pure outcome.exitCode.toUInt32
