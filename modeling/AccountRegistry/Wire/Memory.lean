import AccountRegistry.Wire.Steps
import AccountRegistry.Wire.Classify
import AccountRegistry.Memory.World

/-!
Scenarios in the in-memory world: each step runs against the world the earlier steps
left, and its answer lists the capability calls and log events it caused.
-/

set_option autoImplicit false

namespace AccountRegistry.Wire

open Memory

/-- What every call record tells about its context. -/
def contextFields (ctx : CallContext) : List (String × Json) :=
  [("deadline", .bool ctx.hasDeadline), ("request_id", Json.ofOption ctx.requestId)]

/-- The record of an account a table was given. -/
def accountFields (a : Account) : List (String × Json) :=
  [("id", .int a.id.val), ("name", .str a.name), ("cpf", .str a.cpf.digits), ("email", .str a.email)]

/-- The record of a capability call. -/
def callReport : Call → Json
  | .register ctx r =>
    .obj ([("cap", .str "identity"), ("op", .str "register"), ("name", .str r.name), ("cpf", .str r.cpf.digits),
      ("email", .str r.email), ("role", .str r.role.label)] ++ contextFields ctx)
  | .authenticate ctx t =>
    .obj ([("cap", .str "identity"), ("op", .str "authenticate"), ("tax_id", .str t)] ++ contextFields ctx)
  | .authenticateAnonymous ctx =>
    .obj ([("cap", .str "identity"), ("op", .str "authenticate_anonymous")] ++ contextFields ctx)
  | .table k c =>
    let cap := ("cap", Json.str (k.label ++ "_store"))
    match c with
    | .insert ctx a => .obj ([cap, ("op", .str "insert")] ++ accountFields a ++ contextFields ctx)
    | .save ctx a => .obj ([cap, ("op", .str "save")] ++ accountFields a ++ contextFields ctx)
    | .findById ctx id => .obj ([cap, ("op", .str "find_by_id"), ("id", .int id.val)] ++ contextFields ctx)
    | .findByTaxId ctx cpf => .obj ([cap, ("op", .str "find_by_tax_id"), ("cpf", .str cpf.digits)] ++ contextFields ctx)
    | .ping => .obj [cap, ("op", .str "ping"), ("deadline", .null), ("request_id", .null)]

/-- The table operation a failure target names. -/
def tableOpOf : String → Option TableOp
  | "insert" => some .insert
  | "save" => some .save
  | "find_by_id" => some .findById
  | "find_by_tax_id" => some .findByTaxId
  | "ping" => some .ping
  | _ => none

/-- Arms the failure a step describes. -/
def armStep (step : Json) : Except Json (Step Unit) := do
  let error := (step.field? "error").getD .null
  match step.strField? "target" with
  | some "register" => pure (armRegister (← identityFailureOf error))
  | some "login" => pure (armLogin (← identityFailureOf error))
  | some t =>
    match tableOpOf t with
    | some op => pure (armTable (← stepKind step) op (← storeFailureOf error))
    | none => throw (badInput s!"unknown fail target: {t}")
  | none => throw (badInput "missing string field `target`")

/-- Runs one step of the in-memory world and gives its result. -/
def memoryStep (callTimeoutSecs : Nat) (step : Json) : Step Json :=
  match serviceStep (Memory.app callTimeoutSecs) Memory.journal "<generated>" step with
  | some run => run
  | none =>
    match step.strField? "op" with
    | some "seed" =>
      match stepKind step with
      | .error e => pure e
      | .ok k =>
        match needStr step "name", needStr step "cpf", needStr step "email" with
        | .error e, _, _ | .ok _, .error e, _ | .ok _, .ok _, .error e => pure e
        | .ok name, .ok raw, .ok email =>
          match Cpf.parse raw with
          | .error e => pure (cpfFailure e)
          | .ok cpf => do
            let id ← seed k ⟨AccountId.unassigned, name, cpf, email⟩
            pure (.obj [("ok", Payload.ofCreated id)])
    | some "fail" =>
      match armStep step with
      | .ok arm => do
        arm
        pure (.obj [("ok", .null)])
      | .error e => pure e
    | some "dump" => do
      let w ← get
      pure (.obj [("ok", .obj [("customer", .arr (w.customers.rows.map Payload.ofAccount)),
        ("admin_user", .arr (w.admins.rows.map Payload.ofAccount))])])
    | some "context" => pure (contextReport step)
    | some op => pure (badInput s!"unknown step op: {op}")
    | none => pure (badInput "missing string field `op`")

/-- Runs a step and reports it with the calls and events it caused. -/
def reportedStep (callTimeoutSecs : Nat) (step : Json) : Step Json := do
  let result ← memoryStep callTimeoutSecs step
  let (calls, events) ← drain
  pure (.obj [("result", result), ("calls", .arr (calls.map callReport)), ("logs", .arr (events.map logEntry))])

/-- The answer of an in-memory scenario. -/
def memoryScenario (req : Json) : Json :=
  let world : World :=
    { token := (req.strField? "token").getD "TOKEN", guestToken := (req.strField? "guest_token").getD "GUEST-TOKEN",
      defaultPing := (req.boolField? "default_ping").getD false }
  let timeout := ((req.intField? "call_timeout_secs").getD 10).toNat
  let steps := ((req.opt? "steps").bind Json.getArr?).getD []
  let (answers, _) := (steps.mapM (reportedStep timeout)).run world
  .obj [("steps", .arr answers)]

end AccountRegistry.Wire
