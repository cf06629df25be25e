import AccountRegistry.Memory.Request

/-!
Concurrent requests over the in-memory world. A request is served by a task that stops at
every await point of the services: a capability call is one atomic step, since the fakes
hold their locks for the whole call, except the insert, which awaits once more between
firing its armed slot and checking the tax id under the table's lock, so that its check
and write are a step of their own. Logging an event is a step too.

A system holds the shared world, the requests being served and those served. It moves by
taking a new request, arming a failure, or letting any one of its requests take its next
step or return. Each request keeps the steps it took, with the worlds around each.

Spans belong to a request, so the shared world's open spans are not used here: events are
logged as the services make them.
-/

set_option autoImplicit false

namespace AccountRegistry.Memory

/-- What an atomic step is. -/
inductive Label where
  /-- A capability call, recorded when it is made. -/
  | call (c : Call)
  /-- An insert's check of the tax id and its write, under the table's lock. -/
  | commit (k : AccountKind)
  /-- Logging an event. -/
  | log
  deriving Repr

/-- A computation that stops before each atomic step: the step's effect on the world and
what comes after it depend on the world it runs in. -/
inductive Task (α : Type) where
  | done (a : α)
  | step (label : Label) (act : World → World) (next : World → Task α)

namespace Task

/-- Runs one task, then the task built from its result. -/
def bind {α β : Type} : Task α → (α → Task β) → Task β
  | done a, f => f a
  | step l act next, f => step l act fun w => (next w).bind f

instance : Monad Task where
  pure := done
  bind := bind

/-- One atomic step of work. -/
def atomic {α : Type} (l : Label) (x : Step α) : Task α :=
  step l (fun w => (x.run w).2) fun w => done (x.run w).1

end Task

/-- The identity provider, one step per call. -/
def taskIdentity : IdentityProvider Task where
  register ctx r := .atomic (.call (.register ctx r)) (identity.register ctx r)
  authenticate ctx taxId := .atomic (.call (.authenticate ctx taxId)) (identity.authenticate ctx taxId)
  authenticateAnonymous ctx :=
    .atomic (.call (.authenticateAnonymous ctx)) (identity.authenticateAnonymous ctx)

/-- The table of an account kind as a store, one step per call; an insert takes a second
step for its check and write. -/
def taskStore (k : AccountKind) : AccountStore Task where
  insert ctx a := do
    match ← Task.atomic (.call (.table k (.insert ctx a))) (enter k .insert (.insert ctx a)) with
    | some e => pure (.error e)
    | none => Task.atomic (.commit k) (commit k fun t => t.insert a)
  save ctx a := .atomic (.call (.table k (.save ctx a))) ((store k).save ctx a)
  findById ctx id := .atomic (.call (.table k (.findById ctx id))) ((store k).findById ctx id)
  findByTaxId ctx cpf := .atomic (.call (.table k (.findByTaxId ctx cpf))) ((store k).findByTaxId ctx cpf)
  ping := .atomic (.call (.table k .ping)) (store k).ping

/-- Adds an event to the world's log. -/
def logEvent (e : LogEvent) : Step Unit := modify fun w => { w with events := w.events ++ [e] }

/-- The journal of a request: each event is logged in a step of its own. -/
def taskJournal : Journal Task where
  emit e := .atomic .log (logEvent e)
  enclose _ x := x

/-- The service of an account kind, for concurrent requests. -/
def taskService (k : AccountKind) : AccountService Task := ⟨k, taskIdentity, taskStore k, taskJournal⟩

/-- A step a request took, with the world before and after it. -/
structure Obs where
  label : Label
  pre : World
  post : World

/-- A request being served: the world it arrived in, the steps it took and what remains. -/
structure Thread where
  op : Op
  start : World
  log : List Obs
  rest : Task Reply

/-- A request served: the world it arrived in, the steps it took and its reply. -/
structure Outcome where
  op : Op
  start : World
  log : List Obs
  reply : Reply

/-- The shared world, the requests being served and those served, in the order they returned. -/
structure System where
  world : World
  running : List Thread
  finished : List Outcome

namespace System

/-- One move of a system. -/
inductive Move : System → System → Prop
  /-- A request arrives. -/
  | spawn {w : World} {run : List Thread} {fin : List Outcome} (op : Op) :
      Move ⟨w, run, fin⟩ ⟨w, run ++ [⟨op, w, [], op.serve taskService⟩], fin⟩
  /-- A failure is armed. -/
  | arm {w : World} {run : List Thread} {fin : List Outcome} (f : Fault) :
      Move ⟨w, run, fin⟩ ⟨(f.arm.run w).2, run, fin⟩
  /-- A request takes its next step. -/
  | advance {w start : World} {pre post : List Thread} {fin : List Outcome} {op : Op} {log : List Obs}
      {l : Label} {act : World → World} {next : World → Task Reply} :
      Move ⟨w, pre ++ ⟨op, start, log, .step l act next⟩ :: post, fin⟩
        ⟨act w, pre ++ ⟨op, start, log ++ [⟨l, w, act w⟩], next w⟩ :: post, fin⟩
  /-- A request returns. -/
  | retire {w start : World} {pre post : List Thread} {fin : List Outcome} {op : Op} {log : List Obs}
      {r : Reply} :
      Move ⟨w, pre ++ ⟨op, start, log, .done r⟩ :: post, fin⟩ ⟨w, pre ++ post, fin ++ [⟨op, start, log, r⟩]⟩

/-- The systems reachable from a world where no request is being served. -/
inductive Reachable (w₀ : World) : System → Prop
  | start : Reachable w₀ ⟨w₀, [], []⟩
  | step {s s' : System} : Reachable w₀ s → Move s s' → Reachable w₀ s'

/-- What a scheduler asks of the system: a request arrives, a failure is armed, or the
request at a position of the running list steps or returns. -/
inductive Command where
  | spawn (op : Op)
  | arm (f : Fault)
  | advance (i : Nat)
  | retire (i : Nat)

/-- The system after a command, when the request it names can take that move. -/
def apply (s : System) : Command → Option System
  | .spawn op => some ⟨s.world, s.running ++ [⟨op, s.world, [], op.serve taskService⟩], s.finished⟩
  | .arm f => some ⟨(f.arm.run s.world).2, s.running, s.finished⟩
  | .advance i =>
    match s.running[i]? with
    | some ⟨op, start, log, .step l act next⟩ =>
      some ⟨act s.world, s.running.set i ⟨op, start, log ++ [⟨l, s.world, act s.world⟩], next s.world⟩,
        s.finished⟩
    | _ => none
  | .retire i =>
    match s.running[i]? with
    | some ⟨op, start, log, .done r⟩ => some ⟨s.world, s.running.eraseIdx i, s.finished ++ [⟨op, start, log, r⟩]⟩
    | _ => none

/-- The system after a schedule of commands, when each can be taken in turn. -/
def schedule (s : System) : List Command → Option System
  | [] => some s
  | c :: cs => (s.apply c).bind (·.schedule cs)

end System

end AccountRegistry.Memory
