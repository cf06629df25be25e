import AccountRegistry.Proofs.Tables

/-!
# Concurrent requests

A run of a task (`Task.Runs`) is the list of steps it takes, each in the world it happens
to meet, since other requests may have moved the world in between. A run to the end of a
bound task splits into runs of its parts (`Task.Runs.bind_done`), and an atomic step runs
once (`Task.Runs.atomic_done`).

`Task.All G t` says that every step `t` can take keeps `G`, whatever world it meets. A
request keeps what each capability keeps (`all_serve`, `KeptBy`); so every request keeps the
guarantee (`all_serve_guarantee`): both tables stay well formed and each counter moves by at
most one, because the services write only accounts whose tax ids they parsed.
-/

set_option autoImplicit false

namespace AccountRegistry.Memory

open World

namespace Task

variable {α β : Type}

@[simp] theorem pure_eq (a : α) : (pure a : Task α) = .done a := rfl

@[simp] theorem bind_eq (x : Task α) (f : α → Task β) : x >>= f = x.bind f := rfl

theorem map_eq (f : α → β) (x : Task α) : f <$> x = x.bind fun a => .done (f a) := rfl

/-! ## Runs -/

/-- `Runs t log t'`: the task `t` takes the steps `log`, each in the world it records, and
is left as `t'`. -/
inductive Runs : Task α → List Obs → Task α → Prop
  | refl (t : Task α) : Runs t [] t
  | step {l : Label} {act : World → World} {next : World → Task α} {log : List Obs} {t' : Task α}
      (w : World) : Runs (next w) log t' → Runs (.step l act next) (⟨l, w, act w⟩ :: log) t'

theorem Runs.trans {t t' t'' : Task α} {log log' : List Obs} (h : Runs t log t') (h' : Runs t' log' t'') :
    Runs t (log ++ log') t'' := by
  induction h with
  | refl => exact h'
  | step w _ ih => exact .step w (ih h')

/-- One more step of a task that stopped before it. -/
theorem Runs.snoc {t : Task α} {log : List Obs} {l : Label} {act : World → World} {next : World → Task α}
    (h : Runs t log (.step l act next)) (w : World) : Runs t (log ++ [⟨l, w, act w⟩]) (next w) :=
  h.trans (.step w (.refl _))

theorem runs_done_iff {a : α} {log : List Obs} {t : Task α} :
    Runs (.done a) log t ↔ log = [] ∧ t = .done a := by
  constructor
  · rintro ⟨⟩
    exact ⟨rfl, rfl⟩
  · rintro ⟨rfl, rfl⟩
    exact .refl _

theorem Runs.step_done {l : Label} {act : World → World} {next : World → Task α} {log : List Obs} {b : α}
    (h : Runs (.step l act next) log (.done b)) :
    ∃ w rest, log = ⟨l, w, act w⟩ :: rest ∧ Runs (next w) rest (.done b) := by
  cases h with
  | step w h => exact ⟨w, _, rfl, h⟩

/-- **A bound task run to its end** is a run of the first task to its end, then a run of
the task built from its result. -/
theorem Runs.bind_done {x : Task α} {f : α → Task β} {log : List Obs} {b : β}
    (h : Runs (x.bind f) log (.done b)) :
    ∃ l₁ l₂ a, log = l₁ ++ l₂ ∧ Runs x l₁ (.done a) ∧ Runs (f a) l₂ (.done b) := by
  induction x generalizing log with
  | done a => exact ⟨[], log, a, rfl, .refl _, h⟩
  | step l act next ih =>
    obtain ⟨w, rest, rfl, hrest⟩ := Runs.step_done h
    obtain ⟨l₁, l₂, a, rfl, h₁, h₂⟩ := ih w hrest
    exact ⟨_ :: l₁, l₂, a, rfl, .step w h₁, h₂⟩

theorem Runs.map_done {f : α → β} {x : Task α} {log : List Obs} {b : β} (h : Runs (f <$> x) log (.done b)) :
    ∃ a, b = f a ∧ Runs x log (.done a) := by
  rw [map_eq] at h
  obtain ⟨l₁, l₂, a, rfl, h₁, h₂⟩ := Runs.bind_done h
  obtain ⟨rfl, he⟩ := runs_done_iff.1 h₂
  refine ⟨a, Task.done.inj he, ?_⟩
  rwa [List.append_nil]

theorem Runs.atomic_done {l : Label} {x : Step α} {log : List Obs} {a : α} (h : Runs (atomic l x) log (.done a)) :
    ∃ w, log = [⟨l, w, (x.run w).2⟩] ∧ a = (x.run w).1 := by
  obtain ⟨w, rest, rfl, hrest⟩ := Runs.step_done h
  obtain ⟨rfl, he⟩ := runs_done_iff.1 hrest
  exact ⟨w, rfl, Task.done.inj he⟩

/-! ## Steps that keep a relation -/

/-- Every step the task can take keeps `G` between the world before and after it, whatever
the world it meets. -/
inductive All (G : World → World → Prop) : Task α → Prop
  | done (a : α) : All G (.done a)
  | step {l : Label} {act : World → World} {next : World → Task α} :
      (∀ w, G w (act w)) → (∀ w, All G (next w)) → All G (.step l act next)

variable {G : World → World → Prop}

theorem All.bind {x : Task α} {f : α → Task β} (hx : All G x) (hf : ∀ a, All G (f a)) : All G (x.bind f) := by
  induction hx with
  | done a => exact hf a
  | step hact _ ih => exact .step hact ih

theorem All.atomic {l : Label} {x : Step α} (h : ∀ w, G w (x.run w).2) : All G (Task.atomic l x) :=
  .step h fun _ => .done _

theorem All.mono {G' : World → World → Prop} {t : Task α} (h : All G t) (hG : ∀ w w', G w w' → G' w w') :
    All G' t := by
  induction h with
  | done a => exact .done a
  | step hact _ ih => exact .step (fun w => hG _ _ (hact w)) ih

/-- What is left of a task keeps `G`, and so did every step it took. -/
theorem All.runs {t t' : Task α} {log : List Obs} (h : All G t) (hr : Runs t log t') :
    All G t' ∧ ∀ ob ∈ log, G ob.pre ob.post := by
  induction hr with
  | refl => exact ⟨h, fun _ => nofun⟩
  | step w _ ih =>
    cases h with
    | step hact hnext =>
      obtain ⟨h', hlog⟩ := ih (hnext w)
      exact ⟨h', List.forall_mem_cons.2 ⟨hact w, hlog⟩⟩

end Task

/-! ## Every request keeps what each capability keeps -/

/-- A relation between worlds that every step of the provider, of firing a table's slot, of a
table's reads, of an insert's write of a parsed tax id and of logging keeps, whatever world
it meets. Saves are left out: what a save does depends on the account it writes. -/
structure KeptBy (G : World → World → Prop) : Prop where
  register : ∀ ctx r w, G w ((identity.register ctx r).run w).2
  authenticate : ∀ ctx taxId w, G w ((identity.authenticate ctx taxId).run w).2
  authenticateAnonymous : ∀ ctx w, G w ((identity.authenticateAnonymous ctx).run w).2
  enter : ∀ k op c w, G w ((enter k op c).run w).2
  insert : ∀ k (a : Account), Cpf.parse a.cpf.digits = .ok a.cpf → ∀ w, G w ((commit k fun t => t.insert a).run w).2
  findById : ∀ k ctx id w, G w (((store k).findById ctx id).run w).2
  findByTaxId : ∀ k ctx cpf w, G w (((store k).findByTaxId ctx cpf).run w).2
  ping : ∀ k w, G w ((store k).ping.run w).2
  log : ∀ e w, G w ((logEvent e).run w).2

section Kept

variable {G : World → World → Prop} {k : AccountKind}

theorem KeptBy.mono {G' : World → World → Prop} (hG : KeptBy G) (h : ∀ w w', G w w' → G' w w') : KeptBy G' where
  register ctx r w := h _ _ (hG.register ctx r w)
  authenticate ctx taxId w := h _ _ (hG.authenticate ctx taxId w)
  authenticateAnonymous ctx w := h _ _ (hG.authenticateAnonymous ctx w)
  enter k op c w := h _ _ (hG.enter k op c w)
  insert k a hv w := h _ _ (hG.insert k a hv w)
  findById k ctx id w := h _ _ (hG.findById k ctx id w)
  findByTaxId k ctx cpf w := h _ _ (hG.findByTaxId k ctx cpf w)
  ping k w := h _ _ (hG.ping k w)
  log e w := h _ _ (hG.log e w)

@[simp] theorem taskService_kind : (taskService k).kind = k := rfl

@[simp] theorem taskService_name : (taskService k).name = k.serviceName := rfl

@[simp] theorem taskService_enclose {α : Type} (s : Span) (t : Task α) : (taskService k).journal.enclose s t = t :=
  rfl

variable (hG : KeptBy G) (ctx : CallContext)
include hG

theorem all_emit (e : LogEvent) : Task.All G ((taskService k).journal.emit e) :=
  Task.All.atomic (hG.log e)

theorem all_fail {ε : Type} [Classify ε] (e : ε) : Task.All G ((taskService k).fail e) := by
  unfold AccountService.fail
  split
  exact Task.All.bind (all_emit hG _) fun _ => .done _

theorem all_lift {ε α : Type} [Classify ε] {x : Task (Except ε α)} (hx : Task.All G x) :
    Task.All G ((taskService k).lift x) := by
  refine Task.All.bind hx fun r => ?_
  rcases r with e | a
  · exact Task.All.bind (all_fail hG e) fun _ => .done _
  · exact .done _

theorem all_insert {a : Account} (hv : Cpf.parse a.cpf.digits = .ok a.cpf) :
    Task.All G ((taskService k).store.insert ctx a) := by
  refine Task.All.bind (Task.All.atomic (hG.enter k _ _)) fun r => ?_
  rcases r with _ | e
  · exact Task.All.atomic (hG.insert k a hv)
  · exact .done _

theorem all_create (d : AccountDraft) : Task.All G ((taskService k).create ctx d) := by
  unfold AccountService.create
  rw [taskService_enclose]
  rcases hp : Cpf.parse d.cpf with e | c
  · exact Task.All.bind (all_fail hG _) fun _ => .done _
  · have hv : Cpf.parse (d.toAccount c).cpf.digits = .ok (d.toAccount c).cpf := Cpf.parse_digits hp
    refine Task.All.bind (all_lift hG (Task.All.atomic (hG.register ctx _))) fun r => ?_
    rcases r with f | ⟨⟩
    · exact .done _
    · refine Task.All.bind (all_insert hG ctx hv) fun r => ?_
      rcases r with e | id
      · exact Task.All.bind (all_emit hG _) fun _ => .done _
      · exact Task.All.bind (all_emit hG _) fun _ => .done _

theorem all_update (hsave : ∀ k ctx (a : Account), Cpf.parse a.cpf.digits = .ok a.cpf →
      ∀ w, G w (((store k).save ctx a).run w).2) (d : AccountDraft) :
    Task.All G ((taskService k).update ctx d) := by
  unfold AccountService.update
  rw [taskService_enclose]
  rcases hp : Cpf.parse d.cpf with e | c
  · exact Task.All.bind (all_fail hG _) fun _ => .done _
  · exact all_lift hG (Task.All.atomic (hsave k ctx _ (Cpf.parse_digits hp)))

theorem all_getById (id : AccountId) : Task.All G ((taskService k).getById ctx id) :=
  all_lift hG (Task.All.atomic (hG.findById k ctx id))

theorem all_getByTaxId (taxId : String) : Task.All G ((taskService k).getByTaxId ctx taxId) := by
  unfold AccountService.getByTaxId
  rw [taskService_enclose]
  rcases Cpf.parse taxId with e | c
  · exact Task.All.bind (all_fail hG _) fun _ => .done _
  · exact all_lift hG (Task.All.atomic (hG.findByTaxId k ctx c))

theorem all_login (taxId : String) : Task.All G ((taskService k).login ctx taxId) :=
  all_lift hG (Task.All.atomic (hG.authenticate ctx taxId))

theorem all_loginAnonymous : Task.All G ((taskService k).loginAnonymous ctx) :=
  all_lift hG (Task.All.atomic (hG.authenticateAnonymous ctx))

theorem all_ping : Task.All G (taskService k).ping :=
  all_lift hG (Task.All.atomic (hG.ping k))

/-- Every request but an update keeps what each capability keeps. -/
theorem all_serve_of_ne_update (op : Op) (hop : ∀ k ctx d, op ≠ .update k ctx d) :
    Task.All G (op.serve taskService) := by
  cases op with
  | create k ctx d => exact Task.All.bind (all_create hG ctx d) fun _ => .done _
  | update k ctx d => exact absurd rfl (hop k ctx d)
  | getById k ctx id => exact Task.All.bind (all_getById hG ctx id) fun _ => .done _
  | getByTaxId k ctx taxId => exact Task.All.bind (all_getByTaxId hG ctx taxId) fun _ => .done _
  | login k ctx taxId => exact Task.All.bind (all_login hG ctx taxId) fun _ => .done _
  | loginAnonymous k ctx => exact Task.All.bind (all_loginAnonymous hG ctx) fun _ => .done _
  | ping k => exact Task.All.bind (all_ping hG) fun _ => .done _

/-- **Every request keeps what each capability keeps**, saves included. -/
theorem all_serve (hsave : ∀ k ctx (a : Account), Cpf.parse a.cpf.digits = .ok a.cpf →
      ∀ w, G w (((store k).save ctx a).run w).2) (op : Op) :
    Task.All G (op.serve taskService) := by
  cases op
  case update k ctx d => exact Task.All.bind (all_update hG ctx hsave d) fun _ => .done _
  all_goals exact all_serve_of_ne_update hG _ fun _ _ _ h => Op.noConfusion h

end Kept

/-! ## The guarantee -/

/-- Every capability's step keeps the guarantee. -/
theorem keptBy_guarantee : KeptBy Guarantee where
  register ctx r w := (sameRows_register w ctx r).guarantee
  authenticate ctx taxId w := (sameRows_authenticate w ctx taxId).guarantee
  authenticateAnonymous ctx w := (sameRows_authenticateAnonymous w ctx).guarantee
  enter k op c w := (sameRows_enter w k op c).guarantee
  insert _ _ hv _ := guarantee_commit (Table.safe_insert hv)
  findById _ _ _ _ := guarantee_onTable (Table.safe_read _)
  findByTaxId _ _ _ _ := guarantee_onTable (Table.safe_read _)
  ping k w := by
    cases hd : w.defaultPing
    · simp [store, hd]
      exact guarantee_onTable (Table.safe_of_keeps fun _ _ _ h => (Prod.mk.inj (Except.ok.inj h)).2.symm)
    · simp [store, hd]
      exact (SameRows.refl w).guarantee
  log e w := (sameRows_logEvent w e).guarantee

/-- **Every request keeps the guarantee**: a save writes only an account whose tax id the
service parsed. -/
theorem all_serve_guarantee (op : Op) : Task.All Guarantee (op.serve taskService) :=
  all_serve keptBy_guarantee (fun _ _ _ hv _ => guarantee_onTable (Table.safe_save hv)) op

/-! ## How a create runs -/

/-- The step a piece of work takes in the world `w`, with its label. -/
def Obs.of {α : Type} (l : Label) (x : Step α) (w : World) : Obs := ⟨l, w, (x.run w).2⟩

/-- An event logged in the world `w`. -/
def logObs (e : LogEvent) (w : World) : Obs := Obs.of .log (logEvent e) w

section Create

variable (k : AccountKind) (ctx : CallContext) (d : AccountDraft) (c : Cpf)

/-- The registration of a create with the parsed tax id `c`, in the world `w`. -/
def registerObs (w : World) : Obs :=
  Obs.of (.call (.register ctx ⟨d.name, c, d.email, k⟩)) (identity.register ctx ⟨d.name, c, d.email, k⟩) w

/-- The insert call of a create, which fires the insert's slot. -/
def insertObs (w : World) : Obs :=
  Obs.of (.call (.table k (.insert ctx (d.toAccount c)))) (enter k .insert (.insert ctx (d.toAccount c))) w

/-- The insert's check and write under the table's lock. -/
def commitObs (w : World) : Obs := Obs.of (.commit k) (commit k fun t => t.insert (d.toAccount c)) w

/-- The ways a create runs to its end, by the worlds its steps meet: its tax id does not
parse; the provider refuses the registration; the insert fires an armed failure; the
insert finds the tax id held; or the row is added under the table's counter. -/
inductive CreateRun : List Obs → Except Failure AccountId → Prop
  | invalid {e : CpfError} {w : World} (hp : Cpf.parse d.cpf = .error e) :
      CreateRun [logObs ((AccountService.invalidCpf e).attributeTo k.serviceName).2 w]
        (.error ((AccountService.invalidCpf e).attributeTo k.serviceName).1)
  | unregistered {c : Cpf} {e : IdentityFailure} {w₁ w₂ : World} (hp : Cpf.parse d.cpf = .ok c)
      (hr : w₁.registerArmed = some e) :
      CreateRun [registerObs k ctx d c w₁, logObs ((Classify.classify e).attributeTo k.serviceName).2 w₂]
        (.error ((Classify.classify e).attributeTo k.serviceName).1)
  | refused {c : Cpf} {e : StoreFailure} {w₁ w₂ w₃ : World} (hp : Cpf.parse d.cpf = .ok c)
      (hr : w₁.registerArmed = none) (he : ((w₂.table k).take .insert).1 = some e) :
      CreateRun [registerObs k ctx d c w₁, insertObs k ctx d c w₂,
          logObs (AccountService.orphanEvent (e.classify.attributed k.serviceName) c ctx) w₃]
        (.error (e.classify.attributed k.serviceName))
  | held {c : Cpf} {w₁ w₂ w₃ w₄ : World} (hp : Cpf.parse d.cpf = .ok c) (hr : w₁.registerArmed = none)
      (he : ((w₂.table k).take .insert).1 = none) (hc : c ∈ (w₃.table k).rows.map (·.cpf)) :
      CreateRun [registerObs k ctx d c w₁, insertObs k ctx d c w₂, commitObs k d c w₃,
          logObs (AccountService.orphanEvent (Table.taken.classify.attributed k.serviceName) c ctx) w₄]
        (.error (Table.taken.classify.attributed k.serviceName))
  | added {c : Cpf} {w₁ w₂ w₃ w₄ : World} (hp : Cpf.parse d.cpf = .ok c) (hr : w₁.registerArmed = none)
      (he : ((w₂.table k).take .insert).1 = none) (hc : c ∉ (w₃.table k).rows.map (·.cpf)) :
      CreateRun [registerObs k ctx d c w₁, insertObs k ctx d c w₂, commitObs k d c w₃,
          logObs (AccountService.createdEvent ⟨(w₃.table k).nextId⟩ c) w₄]
        (.ok ⟨(w₃.table k).nextId⟩)

end Create

section Completion

variable {k : AccountKind} {ctx : CallContext} {α : Type}

/-- An event logged, then a value returned. -/
theorem Runs.emit_done {e : LogEvent} {f : Unit → Task α} {log : List Obs} {r : α}
    (h : Task.Runs ((taskService k).journal.emit e >>= f) log (.done r)) :
    ∃ w rest, log = logObs e w :: rest ∧ Task.Runs (f ()) rest (.done r) := by
  obtain ⟨l₁, l₂, u, rfl, h₁, h₂⟩ := Task.Runs.bind_done h
  obtain ⟨w, rfl, -⟩ := Task.Runs.atomic_done h₁
  exact ⟨w, l₂, rfl, h₂⟩

theorem Runs.pure_done {a r : α} {log : List Obs} (h : Task.Runs (pure a) log (.done r)) : log = [] ∧ r = a := by
  obtain ⟨rfl, he⟩ := Task.runs_done_iff.1 h
  exact ⟨rfl, Task.done.inj he⟩

theorem Runs.fail_done {ε : Type} [Classify ε] {e : ε} {log : List Obs} {f : Failure}
    (h : Task.Runs ((taskService k).fail e) log (.done f)) :
    ∃ w, log = [logObs ((Classify.classify e).attributeTo k.serviceName).2 w] ∧
      f = ((Classify.classify e).attributeTo k.serviceName).1 := by
  unfold AccountService.fail at h
  obtain ⟨w, rest, rfl, hrest⟩ := Runs.emit_done h
  obtain ⟨rfl, rfl⟩ := Runs.pure_done hrest
  exact ⟨w, rfl, rfl⟩

/-- A capability call through the service: its failure is logged and returned. -/
theorem Runs.lift_done {ε β : Type} [Classify ε] {x : Task (Except ε β)} {log : List Obs} {r : Except Failure β}
    (h : Task.Runs ((taskService k).lift x) log (.done r)) :
    ∃ l₁ v, Task.Runs x l₁ (.done v) ∧
      ((∃ b, v = .ok b ∧ log = l₁ ∧ r = .ok b) ∨
        (∃ e w, v = .error e ∧ log = l₁ ++ [logObs ((Classify.classify e).attributeTo k.serviceName).2 w] ∧
          r = .error ((Classify.classify e).attributeTo k.serviceName).1)) := by
  obtain ⟨l₁, l₂, v, rfl, h₁, h₂⟩ := Task.Runs.bind_done h
  refine ⟨l₁, v, h₁, ?_⟩
  rcases v with e | b
  · obtain ⟨l₃, l₄, f, rfl, h₃, h₄⟩ := Task.Runs.bind_done h₂
    obtain ⟨w, rfl, rfl⟩ := Runs.fail_done h₃
    obtain ⟨rfl, rfl⟩ := Runs.pure_done h₄
    exact .inr ⟨e, w, rfl, rfl, rfl⟩
  · obtain ⟨rfl, rfl⟩ := Runs.pure_done h₂
    exact .inl ⟨b, rfl, List.append_nil _, rfl⟩

/-- An insert fires its slot, and when nothing was armed it checks and writes in a second
step. -/
theorem Runs.insert_done {a : Account} {log : List Obs} {r : Except StoreFailure AccountId}
    (h : Task.Runs ((taskService k).store.insert ctx a) log (.done r)) :
    ∃ w₂, (∃ e, ((w₂.table k).take .insert).1 = some e ∧
        log = [Obs.of (.call (.table k (.insert ctx a))) (enter k .insert (.insert ctx a)) w₂] ∧ r = .error e) ∨
      (((w₂.table k).take .insert).1 = none ∧ ∃ w₃,
        log = [Obs.of (.call (.table k (.insert ctx a))) (enter k .insert (.insert ctx a)) w₂,
          Obs.of (.commit k) (commit k fun t => t.insert a) w₃] ∧
        r = ((commit k fun t => t.insert a).run w₃).1) := by
  obtain ⟨l₁, l₂, v, rfl, h₁, h₂⟩ := Task.Runs.bind_done h
  obtain ⟨w₂, rfl, rfl⟩ := Task.Runs.atomic_done h₁
  refine ⟨w₂, ?_⟩
  rw [enter_run] at h₂ ⊢
  rcases hs : ((w₂.table k).take .insert).1 with _ | e <;> rw [hs] at h₂
  · obtain ⟨w₃, rfl, rfl⟩ := Task.Runs.atomic_done h₂
    exact .inr ⟨rfl, w₃, rfl, rfl⟩
  · obtain ⟨rfl, rfl⟩ := Runs.pure_done h₂
    exact .inl ⟨e, rfl, rfl, rfl⟩

/-- **How a create runs to its end**: in one of the five ways of `CreateRun`, whatever the
other requests did to the world between its steps. -/
theorem runs_create {d : AccountDraft} {log : List Obs} {r : Except Failure AccountId}
    (h : Task.Runs ((taskService k).create ctx d) log (.done r)) : CreateRun k ctx d log r := by
  unfold AccountService.create at h
  rw [taskService_enclose] at h
  split at h
  next e hp =>
    obtain ⟨l₁, l₂, f, rfl, h₁, h₂⟩ := Task.Runs.bind_done h
    obtain ⟨w, rfl, rfl⟩ := Runs.fail_done h₁
    obtain ⟨rfl, rfl⟩ := Runs.pure_done h₂
    exact .invalid hp
  next c hp =>
    obtain ⟨l₁, l₂, v, rfl, h₁, h₂⟩ := Task.Runs.bind_done h
    obtain ⟨l₀, u, h₀, hu⟩ := Runs.lift_done h₁
    obtain ⟨w₁, rfl, rfl⟩ := Task.Runs.atomic_done h₀
    rw [register_run_fst] at hu
    cases hr : w₁.registerArmed with
    | some e =>
      -- the provider refuses: its failure is logged and returned
      rw [hr] at hu
      rcases hu with ⟨b, hb, -⟩ | ⟨e', w₂, he, rfl, rfl⟩
      · cases hb
      · cases he
        obtain ⟨rfl, rfl⟩ := Runs.pure_done h₂
        exact @CreateRun.unregistered k ctx d _ _ _ _ hp hr
    | none =>
      rw [hr] at hu
      rcases hu with ⟨b, -, rfl, rfl⟩ | ⟨e', w₂, he, -⟩
      · cases b
        obtain ⟨l₃, l₄, v', rfl, h₃, h₄⟩ := Task.Runs.bind_done h₂
        obtain ⟨w₂, ⟨e, he, rfl, rfl⟩ | ⟨he, w₃, rfl, rfl⟩⟩ := Runs.insert_done h₃
        · -- the insert fires an armed failure
          obtain ⟨w₃, rest, rfl, hrest⟩ := Runs.emit_done h₄
          obtain ⟨rfl, rfl⟩ := Runs.pure_done hrest
          exact @CreateRun.refused k ctx d _ _ _ _ _ hp hr he
        · -- the insert checks the tax id under the table's lock
          rw [commit_run] at h₄
          rcases hi : (w₃.table k).insert (d.toAccount c) with e | ⟨id, t⟩ <;> rw [hi] at h₄
          · obtain ⟨hc, rfl⟩ := Table.insert_eq_error_iff.1 hi
            obtain ⟨w₄, rest, rfl, hrest⟩ := Runs.emit_done h₄
            obtain ⟨rfl, rfl⟩ := Runs.pure_done hrest
            exact @CreateRun.held k ctx d _ _ _ _ _ hp hr he hc
          · obtain ⟨hc, he'⟩ := Table.insert_eq_ok_iff.1 hi
            have hid : id = ⟨(w₃.table k).nextId⟩ := congrArg Prod.fst he'
            subst hid
            obtain ⟨w₄, rest, rfl, hrest⟩ := Runs.emit_done h₄
            obtain ⟨rfl, rfl⟩ := Runs.pure_done hrest
            exact @CreateRun.added k ctx d _ _ _ _ _ hp hr he hc
      · cases he

end Completion

/-! ## What a create's steps do to the tables -/

/-- A step added `rows` to the end of the table of kind `k`, and changed no other row of
either table. -/
def Obs.Appends (ob : Obs) (k : AccountKind) (rows : List Account) : Prop :=
  ∀ k', (ob.post.table k').rows = (ob.pre.table k').rows ++ if k' = k then rows else []

theorem Obs.appends_nil {ob : Obs} (h : SameRows ob.pre ob.post) (k : AccountKind) : ob.Appends k [] := by
  intro k'
  rw [(h k').1]
  split <;> exact (List.append_nil _).symm

section Steps

variable (k : AccountKind) (ctx : CallContext) (d : AccountDraft) (c : Cpf) (w : World)

theorem registerObs_appends : (registerObs k ctx d c w).Appends k [] :=
  Obs.appends_nil (sameRows_register w ctx _) k

theorem insertObs_appends : (insertObs k ctx d c w).Appends k [] :=
  Obs.appends_nil (sameRows_enter w k _ _) k

theorem logObs_appends (e : LogEvent) : (logObs e w).Appends k [] :=
  Obs.appends_nil (sameRows_logEvent w e) k

/-- The insert's write with a tax id not held: its row goes to the end of its own table,
under the counter. -/
theorem commitObs_post {c : Cpf} (hc : c ∉ (w.table k).rows.map (·.cpf)) :
    (commitObs k d c w).post = w.withTable k ((w.table k).add (d.toAccount c)).2 := by
  have hi : (w.table k).insert (d.toAccount c) = .ok ((w.table k).add (d.toAccount c)) :=
    Table.insert_eq_ok_iff.2 ⟨hc, rfl⟩
  show ((commit k fun t => t.insert (d.toAccount c)).run w).2 = _
  rw [commit_run, hi]

theorem commitObs_appends {c : Cpf} (hc : c ∉ (w.table k).rows.map (·.cpf)) :
    (commitObs k d c w).Appends k [⟨⟨(w.table k).nextId⟩, d.name, c, d.email⟩] := by
  intro k'
  rw [commitObs_post k d w hc]
  by_cases hk : k' = k
  · subst hk
    simp only [World.table_withTable, Table.add_rows, if_true]
    rfl
  · rw [World.table_withTable_of_ne _ _ hk, if_neg hk, List.append_nil]
    rfl

end Steps

/-! ## Ids drawn from the counters -/

/-- The ids a step drew: `(k, n)` when it moved the counter of kind `k` on from `n`. -/
def Obs.draws (ob : Obs) : List (AccountKind × Int) :=
  [AccountKind.customer, .adminUser].filterMap fun k =>
    if (ob.post.table k).nextId = (ob.pre.table k).nextId + 1 then some (k, (ob.pre.table k).nextId) else none

theorem Obs.mem_draws {ob : Obs} {p : AccountKind × Int} :
    p ∈ ob.draws ↔ (ob.post.table p.1).nextId = (ob.pre.table p.1).nextId + 1 ∧ p.2 = (ob.pre.table p.1).nextId := by
  obtain ⟨k, n⟩ := p
  cases k <;> simp [Obs.draws, eq_comm]

theorem Obs.draws_nodup (ob : Obs) : ob.draws.Nodup := by
  simp only [Obs.draws, List.filterMap_cons, List.filterMap_nil]
  split_ifs <;> simp

/-- The ids drawn by the steps of a system's requests, being served and served. -/
def System.draws (s : System) : List (AccountKind × Int) :=
  s.running.flatMap (fun th => th.log.flatMap Obs.draws) ++ s.finished.flatMap (fun o => o.log.flatMap Obs.draws)

/-! ## The system invariant -/

/-- What the system keeps of a request being served, in a system whose world is `w`: its
steps are a run of its task, it arrived in a well-formed world, and no counter has gone
below where it was then. -/
structure Thread.Ok (w : World) (th : Thread) : Prop where
  runs : Task.Runs (th.op.serve taskService) th.log th.rest
  start_wf : th.start.Wf
  start_le : ∀ k, (th.start.table k).nextId ≤ (w.table k).nextId
  log_le : ∀ ob ∈ th.log, ∀ k, (th.start.table k).nextId ≤ (ob.pre.table k).nextId

/-- What the system keeps of a request served. -/
structure Outcome.Ok (o : Outcome) : Prop where
  runs : Task.Runs (o.op.serve taskService) o.log (.done o.reply)
  start_wf : o.start.Wf
  log_le : ∀ ob ∈ o.log, ∀ k, (o.start.table k).nextId ≤ (ob.pre.table k).nextId

/-- The invariant of a system: its world is well formed, its requests are runs of their
tasks, and its steps drew each id once and below the counters. -/
structure System.Inv (s : System) : Prop where
  wf : s.world.Wf
  running : ∀ th ∈ s.running, th.Ok s.world
  finished : ∀ o ∈ s.finished, o.Ok
  draws_nodup : s.draws.Nodup
  draws_lt : ∀ p ∈ s.draws, p.2 < (s.world.table p.1).nextId

theorem Thread.Ok.mono {w w' : World} {th : Thread} (h : th.Ok w)
    (hle : ∀ k, (w.table k).nextId ≤ (w'.table k).nextId) : th.Ok w' :=
  ⟨h.runs, h.start_wf, fun k => (h.start_le k).trans (hle k), h.log_le⟩

namespace System.Inv

variable {w start : World} {pre post run : List Thread} {fin : List Outcome} {op : Op} {log : List Obs}

theorem init {w₀ : World} (h₀ : w₀.Wf) : Inv ⟨w₀, [], []⟩ := by
  refine ⟨h₀, fun _ hth => absurd hth List.not_mem_nil, fun _ ho => absurd ho List.not_mem_nil, ?_, ?_⟩ <;>
    simp [System.draws]

theorem spawn (h : Inv ⟨w, run, fin⟩) (op : Op) : Inv ⟨w, run ++ [⟨op, w, [], op.serve taskService⟩], fin⟩ := by
  have hd : System.draws ⟨w, run ++ [⟨op, w, [], op.serve taskService⟩], fin⟩ = System.draws ⟨w, run, fin⟩ := by
    simp [System.draws]
  refine ⟨h.wf, fun th hth => ?_, h.finished, ?_, ?_⟩
  · rcases List.mem_append.1 hth with hth | hth
    · exact h.running th hth
    · rw [List.mem_singleton.1 hth]
      exact ⟨.refl _, h.wf, fun _ => le_refl _, fun _ hob => absurd hob List.not_mem_nil⟩
  · rw [hd]
    exact h.draws_nodup
  · rw [hd]
    exact h.draws_lt

theorem arm (h : Inv ⟨w, run, fin⟩) (f : Fault) : Inv ⟨(f.arm.run w).2, run, fin⟩ := by
  have hs := sameRows_arm w f
  have hle : ∀ k, (w.table k).nextId ≤ (((f.arm.run w).2).table k).nextId := fun k => (hs k).2.ge
  refine ⟨hs.wf h.wf, fun th hth => (h.running th hth).mono hle, h.finished, h.draws_nodup, fun p hp => ?_⟩
  rw [(hs p.1).2]
  exact h.draws_lt p hp

theorem advance {l : Label} {act : World → World} {next : World → Task Reply}
    (h : Inv ⟨w, pre ++ ⟨op, start, log, .step l act next⟩ :: post, fin⟩) :
    Inv ⟨act w, pre ++ ⟨op, start, log ++ [⟨l, w, act w⟩], next w⟩ :: post, fin⟩ := by
  have hth := h.running _ (List.mem_append_right pre List.mem_cons_self)
  -- the step keeps the guarantee, as every step of every request does
  have hG : Guarantee w (act w) := by
    obtain ⟨hall, -⟩ := (all_serve_guarantee op).runs hth.runs
    cases hall with
    | step hact _ => exact hact w
  have hle : ∀ k, (w.table k).nextId ≤ ((act w).table k).nextId := fun k => by
    rcases hG.counter k with hk | hk <;> omega
  -- the new step's draws join the others
  have hperm : List.Perm (System.draws ⟨act w, pre ++ ⟨op, start, log ++ [⟨l, w, act w⟩], next w⟩ :: post, fin⟩)
      (System.draws ⟨w, pre ++ ⟨op, start, log, .step l act next⟩ :: post, fin⟩ ++ Obs.draws ⟨l, w, act w⟩) := by
    refine List.perm_iff_count.2 fun p => ?_
    simp only [System.draws, List.flatMap_append, List.flatMap_cons, List.flatMap_nil, List.count_append,
      List.count_nil]
    omega
  have hfresh : ∀ p ∈ Obs.draws ⟨l, w, act w⟩, ((act w).table p.1).nextId = (w.table p.1).nextId + 1 ∧
      p.2 = (w.table p.1).nextId := fun p hp => Obs.mem_draws.1 hp
  refine ⟨hG.wf h.wf, fun th hmem => ?_, h.finished, ?_, fun p hp => ?_⟩
  · rcases List.mem_append.1 hmem with hmem | hmem
    · exact (h.running th (List.mem_append_left _ hmem)).mono hle
    · rcases List.mem_cons.1 hmem with rfl | hmem
      · refine ⟨hth.runs.snoc w, hth.start_wf, fun k => (hth.start_le k).trans (hle k), fun ob hob => ?_⟩
        rcases List.mem_append.1 hob with hob | hob
        · exact hth.log_le ob hob
        · rw [List.mem_singleton.1 hob]
          exact hth.start_le
      · exact (h.running th (List.mem_append_right _ (List.mem_cons_of_mem _ hmem))).mono hle
  · -- a new draw takes the counter's value, above every earlier draw
    rw [hperm.nodup_iff, List.nodup_append]
    refine ⟨h.draws_nodup, Obs.draws_nodup _, fun q hq p hp hqp => ?_⟩
    have hlt := h.draws_lt q hq
    rw [hqp, (hfresh p hp).2] at hlt
    exact lt_irrefl _ hlt
  · rcases List.mem_append.1 (hperm.subset hp) with hp | hp
    · exact lt_of_lt_of_le (h.draws_lt p hp) (hle p.1)
    · obtain ⟨h₁, h₂⟩ := hfresh p hp
      rw [h₁, h₂]
      exact lt_add_one _

theorem retire {r : Reply} (h : Inv ⟨w, pre ++ ⟨op, start, log, .done r⟩ :: post, fin⟩) :
    Inv ⟨w, pre ++ post, fin ++ [⟨op, start, log, r⟩]⟩ := by
  have hth := h.running _ (List.mem_append_right pre List.mem_cons_self)
  have hperm : List.Perm (System.draws ⟨w, pre ++ post, fin ++ [⟨op, start, log, r⟩]⟩)
      (System.draws ⟨w, pre ++ ⟨op, start, log, .done r⟩ :: post, fin⟩) := by
    refine List.perm_iff_count.2 fun p => ?_
    simp only [System.draws, List.flatMap_append, List.flatMap_cons, List.flatMap_nil, List.count_append,
      List.count_nil]
    omega
  refine ⟨h.wf, fun th hmem => ?_, fun o ho => ?_, hperm.nodup_iff.2 h.draws_nodup,
    fun p hp => h.draws_lt p (hperm.subset hp)⟩
  · rcases List.mem_append.1 hmem with hmem | hmem
    · exact h.running th (List.mem_append_left _ hmem)
    · exact h.running th (List.mem_append_right _ (List.mem_cons_of_mem _ hmem))
  · rcases List.mem_append.1 ho with ho | ho
    · exact h.finished o ho
    · rw [List.mem_singleton.1 ho]
      exact ⟨hth.runs, hth.start_wf, hth.log_le⟩

/-- **Every move keeps the invariant.** -/
theorem move {s s' : System} (h : Inv s) (hm : System.Move s s') : Inv s' := by
  cases hm with
  | spawn op => exact h.spawn op
  | arm f => exact h.arm f
  | advance => exact h.advance
  | retire => exact h.retire

end System.Inv

/-- **The invariant holds in every reachable system.** -/
theorem System.Reachable.inv {w₀ : World} (h₀ : w₀.Wf) {s : System} (h : System.Reachable w₀ s) : s.Inv := by
  induction h with
  | start => exact .init h₀
  | step _ hm ih => exact ih.move hm

/-! ## Creates in a reachable system -/

/-- The kind and id a served request created, when it was a create that succeeded. -/
def Outcome.created? (o : Outcome) : Option (AccountKind × AccountId) :=
  match o.op, o.reply with
  | .create k _ _, .created (.ok id) => some (k, id)
  | _, _ => none

theorem Outcome.created?_eq_some {o : Outcome} {k : AccountKind} {id : AccountId} :
    o.created? = some (k, id) ↔ ∃ ctx d, o.op = .create k ctx d ∧ o.reply = .created (.ok id) := by
  obtain ⟨op, start, log, reply⟩ := o
  rcases op with ⟨k', ctx, d⟩ | _ | _ | _ | _ | _ | _ <;> rcases reply with (_ | id') | _ | _ | _ | _ <;>
    simp [Outcome.created?]

/-- A served create that succeeded ran the fourth way of `CreateRun`: its row was added
under the counter of its table. -/
theorem Outcome.Ok.created_run {o : Outcome} (h : o.Ok) {k : AccountKind} {id : AccountId}
    (hc : o.created? = some (k, id)) :
    ∃ ctx d c w₁ w₂ w₃ w₄, o.op = .create k ctx d ∧ Cpf.parse d.cpf = .ok c ∧
      o.log = [registerObs k ctx d c w₁, insertObs k ctx d c w₂, commitObs k d c w₃,
        logObs (AccountService.createdEvent id c) w₄] ∧
      id = ⟨(w₃.table k).nextId⟩ ∧ c ∉ (w₃.table k).rows.map (·.cpf) := by
  obtain ⟨op, start, log, reply⟩ := o
  obtain ⟨ctx, d, rfl, rfl⟩ := Outcome.created?_eq_some.1 hc
  obtain ⟨r, hr, hrun⟩ := Task.Runs.map_done h.runs
  cases hr
  cases runs_create hrun with
  | added hp _ _ hcpf => exact ⟨ctx, d, _, _, _, _, _, rfl, hp, rfl, rfl, hcpf⟩

/-- A served create that succeeded drew its id from the counter of its table. -/
theorem Outcome.Ok.draws_created {o : Outcome} (h : o.Ok) {k : AccountKind} {id : AccountId}
    (hc : o.created? = some (k, id)) : (k, id.val) ∈ o.log.flatMap Obs.draws := by
  obtain ⟨ctx, d, c, w₁, w₂, w₃, w₄, -, -, hlog, rfl, hcpf⟩ := h.created_run hc
  rw [hlog]
  refine List.mem_flatMap.2 ⟨commitObs k d c w₃, by simp, Obs.mem_draws.2 ⟨?_, rfl⟩⟩
  rw [commitObs_post k d w₃ hcpf, World.table_withTable, Table.add_nextId]
  rfl

/-- Each served create that succeeded drew its id, and no id was drawn twice: so no two of
them returned the same id for the same kind. -/
theorem nodup_created {fin : List Outcome} (hok : ∀ o ∈ fin, o.Ok)
    (hd : (fin.flatMap fun o => o.log.flatMap Obs.draws).Nodup) : (fin.filterMap Outcome.created?).Nodup := by
  induction fin with
  | nil => exact List.nodup_nil
  | cons o fin ih =>
    rw [List.flatMap_cons, List.nodup_append] at hd
    obtain ⟨-, hdf, hdisj⟩ := hd
    have hrest := ih (fun o' ho' => hok o' (List.mem_cons_of_mem _ ho')) hdf
    rw [List.filterMap_cons]
    rcases hc : o.created? with _ | ⟨k, id⟩
    · exact hrest
    · refine List.nodup_cons.2 ⟨fun hmem => ?_, hrest⟩
      obtain ⟨o', ho', hc'⟩ := List.mem_filterMap.1 hmem
      have h₁ := (hok o List.mem_cons_self).draws_created hc
      have h₂ := (hok o' (List.mem_cons_of_mem _ ho')).draws_created hc'
      exact hdisj _ h₁ _ (List.mem_flatMap.2 ⟨o', ho', h₂⟩) rfl

/-- A served create that succeeded returned an assigned id that no row of its table held
when it arrived, and of its four steps only the third changed a table: it added the
account's row to the end of its own kind's table. -/
theorem Outcome.Ok.created {o : Outcome} (h : o.Ok) {k : AccountKind} {id : AccountId}
    (hc : o.created? = some (k, id)) :
    ∃ ctx d c, o.op = .create k ctx d ∧ Cpf.parse d.cpf = .ok c ∧ id.isAssigned ∧
      (∀ r ∈ (o.start.table k).rows, r.id ≠ id) ∧
      List.Forall₂ (fun ob rows => ob.Appends k rows) o.log [[], [], [⟨id, d.name, c, d.email⟩], []] := by
  obtain ⟨ctx, d, c, w₁, w₂, w₃, w₄, hop, hp, hlog, rfl, hcpf⟩ := h.created_run hc
  -- the id is the counter at the insert's write, which the counter on arrival does not exceed
  have hle : (o.start.table k).nextId ≤ (w₃.table k).nextId := h.log_le (commitObs k d c w₃) (by rw [hlog]; simp) k
  have hpos := (h.start_wf k).counter_pos
  refine ⟨ctx, d, c, hop, hp, ?_, fun r hr he => ?_, ?_⟩
  · simp only [AccountId.isAssigned, bne_iff_ne, ne_eq]
    omega
  · have hlt := (h.start_wf k).id_lt r hr
    rw [he] at hlt
    exact absurd (lt_of_lt_of_le hlt hle) (lt_irrefl _)
  · rw [hlog]
    exact .cons (registerObs_appends k ctx d c w₁) (.cons (insertObs_appends k ctx d c w₂)
      (.cons (commitObs_appends k d w₃ hcpf) (.cons (logObs_appends k w₄ _) .nil)))

/-- A served create whose registration and insert met no armed failure, and whose insert
found its tax id held under the table's lock, failed with a conflict after one
registration and one insert. -/
theorem Outcome.Ok.conflict {o : Outcome} (h : o.Ok) {k : AccountKind} {ctx : CallContext} {d : AccountDraft}
    {c : Cpf} (hop : o.op = .create k ctx d) (hp : Cpf.parse d.cpf = .ok c)
    (hreg : ∀ ob ∈ o.log, ob.label = .call (.register ctx ⟨d.name, c, d.email, k⟩) → ob.pre.registerArmed = none)
    (hins : ∀ ob ∈ o.log, ob.label = .call (.table k (.insert ctx (d.toAccount c))) →
      ((ob.pre.table k).take .insert).1 = none)
    (hheld : ∀ ob ∈ o.log, ob.label = .commit k → c ∈ (ob.pre.table k).rows.map (·.cpf)) :
    o.reply = .created (.error ⟨.conflict, 409, "cpf already registered", some k.serviceName⟩) ∧
      o.log.map (·.label) = [.call (.register ctx ⟨d.name, c, d.email, k⟩),
        .call (.table k (.insert ctx (d.toAccount c))), .commit k, .log] := by
  obtain ⟨op, start, log, reply⟩ := o
  dsimp only at hop hreg hins hheld ⊢
  subst hop
  obtain ⟨r, rfl, hrun⟩ := Task.Runs.map_done h.runs
  -- every way but the held tax id contradicts what the steps met
  cases runs_create hrun with
  | invalid hp' => rw [hp] at hp'; cases hp'
  | unregistered hp' hr =>
    rw [hp] at hp'
    cases hp'
    have hnone : _ = none := hreg _ List.mem_cons_self rfl
    exact absurd (hnone.symm.trans hr) nofun
  | refused hp' _ he =>
    rw [hp] at hp'
    cases hp'
    have hnone : _ = none := hins _ (List.mem_cons_of_mem _ List.mem_cons_self) rfl
    exact absurd (hnone.symm.trans he) nofun
  | held hp' _ _ _ =>
    rw [hp] at hp'
    cases hp'
    exact ⟨rfl, rfl⟩
  | added hp' _ _ hc =>
    rw [hp] at hp'
    cases hp'
    exact absurd (hheld _ (List.mem_cons_of_mem _ (List.mem_cons_of_mem _ List.mem_cons_self)) rfl) hc

/-- What every system reachable from a well-formed world satisfies. -/
structure System.Consistent (s : System) : Prop where
  /-- Both tables are well formed. -/
  wf : s.world.Wf
  /-- No two creates that succeeded returned the same id for the same kind. -/
  created_nodup : (s.finished.filterMap Outcome.created?).Nodup
  /-- A create that succeeded returned an assigned id that no row of its table held when it
  arrived, and of its steps only its insert's write changed a table: it added the account's
  row, under that id, to the end of its own kind's table. -/
  created : ∀ o ∈ s.finished, ∀ k id, o.created? = some (k, id) →
    ∃ ctx d c, o.op = .create k ctx d ∧ Cpf.parse d.cpf = .ok c ∧ id.isAssigned ∧
      (∀ r ∈ (o.start.table k).rows, r.id ≠ id) ∧
      List.Forall₂ (fun ob rows => ob.Appends k rows) o.log [[], [], [⟨id, d.name, c, d.email⟩], []]
  /-- A create whose registration and insert met no armed failure, and whose insert found
  its tax id held under the table's lock, failed with a conflict after one registration and
  one insert. -/
  conflict : ∀ o ∈ s.finished, ∀ k ctx d c, o.op = .create k ctx d → Cpf.parse d.cpf = .ok c →
    (∀ ob ∈ o.log, ob.label = .call (.register ctx ⟨d.name, c, d.email, k⟩) → ob.pre.registerArmed = none) →
    (∀ ob ∈ o.log, ob.label = .call (.table k (.insert ctx (d.toAccount c))) →
      ((ob.pre.table k).take .insert).1 = none) →
    (∀ ob ∈ o.log, ob.label = .commit k → c ∈ (ob.pre.table k).rows.map (·.cpf)) →
    o.reply = .created (.error ⟨.conflict, 409, "cpf already registered", some k.serviceName⟩) ∧
      o.log.map (·.label) = [.call (.register ctx ⟨d.name, c, d.email, k⟩),
        .call (.table k (.insert ctx (d.toAccount c))), .commit k, .log]

/-- **Concurrent requests keep the registry consistent**, from well formed tables, whatever
requests arrive, whatever failures are armed and however their steps interleave. -/
theorem concurrent_requests_consistent {w₀ : World} (h₀ : w₀.Wf) {s : System} (hs : System.Reachable w₀ s) :
    s.Consistent := by
  have hi := hs.inv h₀
  refine ⟨hi.wf, nodup_created hi.finished ?_, fun o ho _ _ hc => (hi.finished o ho).created hc,
    fun o ho _ _ _ _ hop hp => (hi.finished o ho).conflict hop hp⟩
  exact (List.nodup_append.1 hi.draws_nodup).2.1

/-! ## Schedules -/

/-- A list splits around its member at a position. -/
theorem split_of_getElem? {α : Type} {l : List α} {i : Nat} {a : α} (h : l[i]? = some a) :
    ∃ pre post, l = pre ++ a :: post ∧ pre.length = i := by
  obtain ⟨hi, rfl⟩ := List.getElem?_eq_some_iff.1 h
  refine ⟨l.take i, l.drop (i + 1), ?_, by simp; omega⟩
  rw [← List.drop_eq_getElem_cons hi, List.take_append_drop]

namespace System

/-- A command the scheduler can take is a move of the system. -/
theorem Move.of_apply {s s' : System} {c : Command} (h : s.apply c = some s') : Move s s' := by
  obtain ⟨w, run, fin⟩ := s
  cases c with
  | spawn op => cases h; exact .spawn op
  | arm f => cases h; exact .arm f
  | advance i =>
    simp only [apply] at h
    split at h
    · rename_i hi
      obtain ⟨pre, post, rfl, rfl⟩ := split_of_getElem? hi
      cases h
      simpa using Move.advance
    · cases h
  | retire i =>
    simp only [apply] at h
    split at h
    · rename_i hi
      obtain ⟨pre, post, rfl, rfl⟩ := split_of_getElem? hi
      cases h
      rw [List.eraseIdx_append_of_length_le (le_refl _)]
      simpa using Move.retire
    · cases h

/-- A schedule whose every command is taken leads from a reachable system to a reachable one. -/
theorem Reachable.schedule {w₀ : World} {s s' : System} {cs : List Command} (hs : Reachable w₀ s)
    (h : s.schedule cs = some s') : Reachable w₀ s' := by
  induction cs generalizing s with
  | nil => cases h; exact hs
  | cons c cs ih =>
    obtain ⟨s₁, h₁, h'⟩ := Option.bind_eq_some_iff.1 h
    exact ih (hs.step (Move.of_apply h₁)) h'

end System

/-- Two creates of one tax id on the customer service, interleaved step by step: both
registrations, both inserts, both commits, then both log lines, and both return. -/
def racingCreates : List System.Command :=
  [.spawn (.create .customer {} { name := "Ana", cpf := "171.079.720-73", email := "ana@example.com" }),
   .spawn (.create .customer {} { name := "Bia", cpf := "17107972073", email := "bia@example.com" }),
   .advance 0, .advance 1, .advance 0, .advance 1, .advance 0, .advance 1, .advance 0, .advance 1,
   .retire 0, .retire 0]

/-- Racing creates of one tax id on the empty world reach a consistent system: the first to
commit gets id 1 and the other a conflict. -/
theorem racing_creates_consistent :
    World.Wf {} ∧ ∃ s, System.schedule ⟨{}, [], []⟩ racingCreates = some s ∧
      System.Reachable {} s ∧ s.Consistent ∧
      s.finished.map (·.reply) = [.created (.ok ⟨1⟩),
        .created (.error ⟨.conflict, 409, "cpf already registered", some AccountKind.customer.serviceName⟩)] := by
  have h₀ : World.Wf {} := fun k => by
    cases k <;> exact ⟨List.nodup_nil, nofun, nofun, le_refl _, List.nodup_nil, nofun⟩
  have hs : System.schedule ⟨{}, [], []⟩ racingCreates = some _ := rfl
  have hr := System.Reachable.schedule .start hs
  exact ⟨h₀, _, hs, hr, concurrent_requests_consistent h₀ hr, rfl⟩

end AccountRegistry.Memory
