import Mathlib
import AccountRegistry.Proofs.Interleaving

/-!
# A request served alone

The tests serve one request at a time, in the world's own monad. That is the request's task
run with no other request in between (`sim_serve`): both give the same reply and leave
worlds that agree on all but their log events and open spans (`World.core`), which only the
journal touches and no capability reads (`Step.Blind`).

A task run to its end with each step in the world the one before left (`Task.exec`) is a run
of it in the sense of `Task.Runs` whose steps chain (`Task.runs_exec`), so what is proved of
the runs of tasks holds of requests served alone: the ways a create can end
(`CreateRun`), and what every step keeps (`Task.All.exec`).
-/

set_option autoImplicit false

namespace AccountRegistry.Memory

/-- Everything a world holds but its log events and open spans. -/
def World.core (w : World) :
    String × String × Option IdentityFailure × Option IdentityFailure × Table × Table × Bool × List Call :=
  (w.token, w.guestToken, w.registerArmed, w.loginArmed, w.customers, w.admins, w.defaultPing, w.calls)

theorem World.table_eq_of_core {w w' : World} (h : w.core = w'.core) (k : AccountKind) : w.table k = w'.table k := by
  simp only [World.core, Prod.mk.injEq] at h
  obtain ⟨-, -, -, -, hc, ha, -⟩ := h
  cases k
  · exact hc
  · exact ha

theorem World.core_withTable {w w' : World} (h : w.core = w'.core) (k : AccountKind) (t : Table) :
    (w.withTable k t).core = (w'.withTable k t).core := by
  simp only [World.core, Prod.mk.injEq] at h
  obtain ⟨h₁, h₂, h₃, h₄, h₅, h₆, h₇, h₈⟩ := h
  cases k <;> simp only [World.withTable, World.core, h₁, h₂, h₃, h₄, h₅, h₆, h₇, h₈]

/-! ## Steps that do not read the log -/

/-- A step of work that neither reads the log events and open spans nor lets them change
anything else. -/
def Step.Blind {α : Type} (x : Step α) : Prop :=
  ∀ w w', w.core = w'.core → (x.run w).1 = (x.run w').1 ∧ (x.run w).2.core = (x.run w').2.core

namespace Step.Blind

variable {α β : Type}

theorem pure (a : α) : Step.Blind (pure a) := fun _ _ h => ⟨rfl, h⟩

theorem bind {x : Step α} {f : α → Step β} (hx : x.Blind) (hf : ∀ a, (f a).Blind) : (x >>= f).Blind := by
  intro w w' h
  obtain ⟨h₁, h₂⟩ := hx w w' h
  rw [StateM.run_bind, StateM.run_bind, h₁]
  exact hf (x.run w').1 (x.run w).2 (x.run w').2 h₂

end Step.Blind

section Blind

variable (ctx : CallContext)

theorem blind_register (r : Registration) : (identity.register ctx r).Blind := by
  rintro ⟨t, g, ra, la, cs, as, dp, calls, evs, sp⟩ ⟨t', g', ra', la', cs', as', dp', calls', evs', sp'⟩ h
  simp only [World.core, Prod.mk.injEq] at h
  obtain ⟨rfl, rfl, rfl, rfl, rfl, rfl, rfl, rfl⟩ := h
  cases ra <;> exact ⟨rfl, rfl⟩

theorem blind_authenticate (taxId : String) : (identity.authenticate ctx taxId).Blind := by
  rintro ⟨t, g, ra, la, cs, as, dp, calls, evs, sp⟩ ⟨t', g', ra', la', cs', as', dp', calls', evs', sp'⟩ h
  simp only [World.core, Prod.mk.injEq] at h
  obtain ⟨rfl, rfl, rfl, rfl, rfl, rfl, rfl, rfl⟩ := h
  cases la <;> exact ⟨rfl, rfl⟩

theorem blind_authenticateAnonymous : (identity.authenticateAnonymous ctx).Blind := by
  rintro ⟨t, g, ra, la, cs, as, dp, calls, evs, sp⟩ ⟨t', g', ra', la', cs', as', dp', calls', evs', sp'⟩ h
  simp only [World.core, Prod.mk.injEq] at h
  obtain ⟨rfl, rfl, rfl, rfl, rfl, rfl, rfl, rfl⟩ := h
  cases la <;> exact ⟨rfl, rfl⟩

theorem blind_enter (k : AccountKind) (op : TableOp) (c : TableCall) : (enter k op c).Blind := by
  rintro ⟨t, g, ra, la, cs, as, dp, calls, evs, sp⟩ ⟨t', g', ra', la', cs', as', dp', calls', evs', sp'⟩ h
  simp only [World.core, Prod.mk.injEq] at h
  obtain ⟨rfl, rfl, rfl, rfl, rfl, rfl, rfl, rfl⟩ := h
  cases k <;> exact ⟨rfl, rfl⟩

theorem blind_commit {α : Type} (k : AccountKind) (f : Table → Except StoreFailure (α × Table)) :
    (commit k f).Blind := by
  intro w w' h
  rw [commit_run, commit_run, World.table_eq_of_core h k]
  rcases f (w'.table k) with e | ⟨a, t⟩
  · exact ⟨rfl, h⟩
  · exact ⟨rfl, World.core_withTable h k t⟩

theorem blind_onTable {α : Type} (k : AccountKind) (op : TableOp) (c : TableCall)
    (f : Table → Except StoreFailure (α × Table)) : (onTable k op c f).Blind := by
  refine (blind_enter k op c).bind fun e => ?_
  rcases e with _ | e
  · exact blind_commit k f
  · exact .pure _

theorem blind_ping (k : AccountKind) : (store k).ping.Blind := by
  rintro ⟨t, g, ra, la, cs, as, dp, calls, evs, sp⟩ ⟨t', g', ra', la', cs', as', dp', calls', evs', sp'⟩ h
  have hon := blind_onTable k .ping .ping (fun t => .ok ((), t)) _ _ h
  simp only [World.core, Prod.mk.injEq] at h
  obtain ⟨rfl, rfl, rfl, rfl, rfl, rfl, rfl, rfl⟩ := h
  cases dp
  · exact hon
  · exact ⟨rfl, rfl⟩

end Blind

/-! ## Running a task alone -/

namespace Task

variable {α β : Type}

/-- Runs a task to its end, each step in the world the step before it left. -/
def exec : Task α → World → α × World
  | done a, w => (a, w)
  | step _ act next, w => exec (next w) (act w)

theorem exec_bind (t : Task α) (f : α → Task β) (w : World) :
    (t.bind f).exec w = (f (t.exec w).1).exec (t.exec w).2 := by
  induction t generalizing w with
  | done a => rfl
  | step l act next ih => exact ih w (act w)

theorem exec_atomic (l : Label) (x : Step α) (w : World) : (atomic l x).exec w = x.run w := rfl

/-- Each step of a list of steps starts in the world the one before it left, from `w` to `w'`. -/
inductive Chain : World → List Obs → World → Prop
  | nil (w : World) : Chain w [] w
  | cons {ob : Obs} {rest : List Obs} {w' : World} : Chain ob.post rest w' → Chain ob.pre (ob :: rest) w'

theorem Chain.nil_inv {w w' : World} (h : Chain w [] w') : w' = w := by
  cases h
  rfl

theorem Chain.cons_inv {w w' : World} {ob : Obs} {rest : List Obs} (h : Chain w (ob :: rest) w') :
    ob.pre = w ∧ Chain ob.post rest w' := by
  cases h with
  | cons hrest => exact ⟨rfl, hrest⟩

/-- **A task run alone** takes chained steps that make a run of it to its end. -/
theorem runs_exec (t : Task α) (w : World) :
    ∃ log, Runs t log (.done (t.exec w).1) ∧ Chain w log (t.exec w).2 := by
  induction t generalizing w with
  | done a => exact ⟨[], .refl _, .nil w⟩
  | step l act next ih =>
    obtain ⟨log, hrun, hchain⟩ := ih w (act w)
    exact ⟨⟨l, w, act w⟩ :: log, .step w hrun, @Chain.cons ⟨l, w, act w⟩ log _ hchain⟩

/-- A property of worlds that every step of a task keeps holds at the end of its run alone. -/
theorem All.exec {P : World → Prop} {t : Task α} (h : All (fun w w' => P w → P w') t) {w : World} (hw : P w) :
    P (t.exec w).2 := by
  induction t generalizing w with
  | done a => exact hw
  | step l act next ih =>
    cases h with
    | step hact hnext => exact ih w (hnext w) (hact w hw)

end Task

/-! ## Serving alone is running the task alone -/

/-- A step of work and a task agree: from worlds with the same core, they give the same
result and leave worlds with the same core. -/
def Sim {α : Type} (x : Step α) (t : Task α) : Prop :=
  ∀ w w', w.core = w'.core → (x.run w).1 = (t.exec w').1 ∧ (x.run w).2.core = (t.exec w').2.core

namespace Sim

variable {α β : Type}

theorem pure (a : α) : Sim (Pure.pure a) (.done a) := fun _ _ h => ⟨rfl, h⟩

theorem bind {x : Step α} {t : Task α} {f : α → Step β} {g : α → Task β} (hx : Sim x t)
    (hf : ∀ a, Sim (f a) (g a)) : Sim (x >>= f) (t.bind g) := by
  intro w w' h
  obtain ⟨h₁, h₂⟩ := hx w w' h
  rw [StateM.run_bind, Task.exec_bind, ← h₁]
  exact hf (x.run w).1 (x.run w).2 (t.exec w').2 h₂

theorem map {x : Step α} {t : Task α} (h : Sim x t) (f : α → β) : Sim (f <$> x) (f <$> t) := by
  intro w w' hw
  obtain ⟨h₁, h₂⟩ := h w w' hw
  rw [Task.map_eq, Task.exec_bind]
  exact ⟨congrArg f h₁, h₂⟩

theorem atomic {x : Step α} (hx : x.Blind) (l : Label) : Sim x (.atomic l x) := hx

/-- A span changes only the open spans. -/
theorem enclose {x : Step α} {t : Task α} (h : Sim x t) (s : Span) : Sim (journal.enclose s x) t := by
  intro w w' hw
  exact h { w with spans := w.spans ++ [s] } w' hw

theorem emit (e : LogEvent) : Sim (journal.emit e) (taskJournal.emit e) := fun _ _ h => ⟨rfl, h⟩

/-- Run alone from one world, the step of work and the task answer alike and leave the same tables. -/
theorem run {x : Step α} {t : Task α} (h : Sim x t) (w : World) :
    (x.run w).1 = (t.exec w).1 ∧ ∀ k, (x.run w).2.table k = (t.exec w).2.table k := by
  obtain ⟨h₁, h₂⟩ := h w w rfl
  exact ⟨h₁, World.table_eq_of_core h₂⟩

end Sim

section Services

variable {k : AccountKind} (ctx : CallContext)

theorem sim_fail {ε : Type} [Classify ε] (e : ε) : Sim ((service k).fail e) ((taskService k).fail e) := by
  unfold AccountService.fail
  exact (Sim.emit _).bind fun _ => Sim.pure _

theorem sim_lift {ε α : Type} [Classify ε] {x : Step (Except ε α)} {t : Task (Except ε α)} (h : Sim x t) :
    Sim ((service k).lift x) ((taskService k).lift t) := by
  refine h.bind fun r => ?_
  rcases r with e | a
  · exact (sim_fail e).bind fun _ => Sim.pure _
  · exact Sim.pure _

theorem sim_register (r : Registration) :
    Sim ((service k).identity.register ctx r) ((taskService k).identity.register ctx r) :=
  Sim.atomic (blind_register ctx r) _

theorem sim_insert (a : Account) : Sim ((service k).store.insert ctx a) ((taskService k).store.insert ctx a) := by
  refine (Sim.atomic (blind_enter k _ _) _).bind fun e => ?_
  rcases e with _ | e
  · exact Sim.atomic (blind_commit k _) _
  · exact Sim.pure _

theorem sim_create (d : AccountDraft) : Sim ((service k).create ctx d) ((taskService k).create ctx d) := by
  unfold AccountService.create
  refine Sim.enclose ?_ _
  rcases Cpf.parse d.cpf with e | c
  · exact (sim_fail _).bind fun _ => Sim.pure _
  · refine (sim_lift (sim_register ctx _)).bind fun r => ?_
    rcases r with f | ⟨⟩
    · exact Sim.pure _
    · refine (sim_insert ctx _).bind fun r => ?_
      rcases r with e | id
      · exact (Sim.emit _).bind fun _ => Sim.pure _
      · exact (Sim.emit _).bind fun _ => Sim.pure _

theorem sim_update (d : AccountDraft) : Sim ((service k).update ctx d) ((taskService k).update ctx d) := by
  unfold AccountService.update
  refine Sim.enclose ?_ _
  rcases Cpf.parse d.cpf with e | c
  · exact (sim_fail _).bind fun _ => Sim.pure _
  · exact sim_lift (Sim.atomic (blind_onTable k _ _ _) _)

theorem sim_getById (id : AccountId) : Sim ((service k).getById ctx id) ((taskService k).getById ctx id) :=
  Sim.enclose (sim_lift (Sim.atomic (blind_onTable k _ _ _) _)) _

theorem sim_getByTaxId (taxId : String) :
    Sim ((service k).getByTaxId ctx taxId) ((taskService k).getByTaxId ctx taxId) := by
  unfold AccountService.getByTaxId
  refine Sim.enclose ?_ _
  rcases Cpf.parse taxId with e | c
  · exact (sim_fail _).bind fun _ => Sim.pure _
  · exact sim_lift (Sim.atomic (blind_onTable k _ _ _) _)

/-- **Serving a request alone is running its task alone.** -/
theorem sim_serve (op : Op) : Sim (op.serve service) (op.serve taskService) := by
  cases op with
  | create k ctx d => exact (sim_create ctx d).map _
  | update k ctx d => exact (sim_update ctx d).map _
  | getById k ctx id => exact (sim_getById ctx id).map _
  | getByTaxId k ctx taxId => exact (sim_getByTaxId ctx taxId).map _
  | login k ctx taxId => exact (Sim.enclose (sim_lift (Sim.atomic (blind_authenticate ctx taxId) _)) _).map _
  | loginAnonymous k ctx =>
    exact (Sim.enclose (sim_lift (Sim.atomic (blind_authenticateAnonymous ctx) _)) _).map _
  | ping k => exact (sim_lift (Sim.atomic (blind_ping k) _)).map _

end Services

end AccountRegistry.Memory
