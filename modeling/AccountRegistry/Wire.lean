import AccountRegistry.Wire.Decode
import AccountRegistry.Wire.Process
import AccountRegistry.Wire.Classify
import AccountRegistry.Wire.Config
import AccountRegistry.Wire.Memory
import AccountRegistry.Wire.Remote

/-!
The JSON request/answer surface of the library: one request object in, one answer out.
The member `op` selects the operation.
-/

set_option autoImplicit false

namespace AccountRegistry.Wire

/-- Answers one request. -/
def answer (req : Json) : Json :=
  match req.strField? "op" with
  | some "cpf" => settle do
      let raw ← needStr req "raw"
      pure (cpfReport raw)
  | some "cpf_api" => settle do
      let raw ← needStr req "raw"
      pure (cpfConversions raw)
  | some "cli" =>
    if (req.opt? "setup").isSome || (req.opt? "env").isSome then commandLineRun req else commandLine req
  | some "server" => serverRun req
  | some "itest" => integrationAnswer req
  | some "pg_decode" => settle (columnAnswer req)
  | some "decode" => settle (decodeAnswer req)
  | some "config" => configAnswer req
  | some "classify" => settle (classifyAnswer req)
  | some "app_error" => settle (failureResponseAnswer req)
  | some "account_id_api" => settle (accountIdAnswer req)
  | some "scenario" =>
    if req.strField? "backend" == some "remote" then remoteScenario req else memoryScenario req
  | some op => badInput s!"unknown op: {op}"
  | none => badInput "missing op"

end AccountRegistry.Wire
