import AccountRegistry.Proofs.Sequential

/-!
# Round trips through a service

What a create or an update writes, the lookups read back. A test drives the fakes one
action at a time from a fake world (`Reaches`); in every world it reaches, for a draft whose
tax id parses (`create_update_round_trip`):

- a create that succeeds gives an assigned id, and from then on both lookups find the
  account under that id, with the parsed tax id, until an update of that id succeeds;
- an update that succeeds is read back the same way;
- an update of an id with no row fails as not found and leaves every table as it was.

A create or an update that succeeds leaves its row held (`create_exec_ok`, `update_exec`),
and a held row is found in every world reached without an update of its id that succeeds
(`Reaches.finds`, from `Reaches.holds` and `finds_of_holds`).
-/

set_option autoImplicit false

namespace AccountRegistry.Memory

open World

/-! ## Lookups -/

section Lookups

variable {k : AccountKind} (ctx : CallContext) {w : World}

/-- A read in a world whose slot for it is empty answers from the table of its kind. -/
theorem read_run {α : Type} {op : TableOp} {c : TableCall} (g : Table → Except StoreFailure α)
    (hslot : (w.table k).take op = (none, w.table k)) :
    ((onTable k op c fun t => (g t).map (·, t)).run w).1 = g (w.table k) := by
  rw [onTable_run, enter_run, hslot]
  simp only
  rw [commit_run, table_withTable]
  rcases g (w.table k) with e | a <;> rfl

theorem exec_lift_atomic_ok {ε α : Type} [Classify ε] {l : Label} {x : Step (Except ε α)} {a : α}
    (h : (x.run w).1 = .ok a) : (((taskService k).lift (Task.atomic l x)).exec w).1 = .ok a := by
  rw [exec_lift_atomic]
  rcases hx : x.run w with ⟨r, w'⟩
  rw [hx] at h
  obtain rfl : r = .ok a := h
  rfl

theorem getById_exec (hw : w.Fake) {a : Account} (ha : (w.table k).Holds a) :
    (((taskService k).getById ctx a.id).exec w).1 = .ok a := by
  have hread : (((store k).findById ctx a.id).run w).1 = .ok a := by
    rw [← ha.findById]
    exact read_run (fun t => t.findById a.id) ((hw k).take nofun)
  exact exec_lift_atomic_ok hread

theorem getByTaxId_exec (hw : w.Fake) {a : Account} (ha : (w.table k).Holds a) {s : String}
    (hs : Cpf.parse s = .ok a.cpf) : (((taskService k).getByTaxId ctx s).exec w).1 = .ok a := by
  have hread : (((store k).findByTaxId ctx a.cpf).run w).1 = .ok a := by
    rw [← ha.findByTaxId]
    exact read_run (fun t => t.findByTaxId a.cpf) ((hw k).take nofun)
  have hget : (taskService k).getByTaxId ctx s =
      (taskService k).lift (Task.atomic (.call (.table k (.findByTaxId ctx a.cpf))) ((store k).findByTaxId ctx a.cpf)) := by
    simp only [AccountService.getByTaxId, taskService_enclose, hs]
    rfl
  rw [hget]
  exact exec_lift_atomic_ok hread

/-- Both lookups of the service of kind `k` find the account `a`: by its id, and by every
text whose digits are those of its tax id. -/
def Finds (w : World) (k : AccountKind) (a : Account) : Prop :=
  ∀ ctx, (((service k).getById ctx a.id).run w).1 = .ok a ∧
    ∀ s, Cpf.normalize s = a.cpf.digits → (((service k).getByTaxId ctx s).run w).1 = .ok a

/-- **Both lookups answer a held row** whose tax id is valid. -/
theorem finds_of_holds (hw : w.Fake) {a : Account} (ha : (w.table k).Holds a)
    (hv : Cpf.parse a.cpf.digits = .ok a.cpf) : Finds w k a := fun ctx =>
  ⟨((sim_getById ctx a.id).run w).1.trans (getById_exec ctx hw ha),
    fun _ hs => ((sim_getByTaxId ctx _).run w).1.trans
      (getByTaxId_exec ctx hw ha (Cpf.parse_of_normalize_eq hv hs))⟩

/-- **A held row is found** in every world reached without an update of its id that succeeds. -/
theorem Reaches.finds {a : Account} {w' : World} (h : Reaches (fun act r => ¬ act.Overwrites k a.id r) w w')
    (hw : w.Fake) (ha : (w.table k).Holds a) (hv : Cpf.parse a.cpf.digits = .ok a.cpf) : Finds w' k a :=
  finds_of_holds (h.fake hw) (h.holds hw ha) hv

end Lookups

/-! ## Writes -/

section Writes

variable {k : AccountKind} (ctx : CallContext) {w : World} {d : AccountDraft}

/-- **A lone create that succeeds** added its row under the counter of its table: its id is
assigned and the row is held. -/
theorem create_exec_ok (hw : w.Fake) {c : Cpf} (hp : Cpf.parse d.cpf = .ok c) {id : AccountId}
    (h : (((taskService k).create ctx d).exec w).1 = .ok id) :
    id.isAssigned ∧ ((((taskService k).create ctx d).exec w).2.table k).Holds ⟨id, d.name, c, d.email⟩ := by
  obtain ⟨log, hrun, hchain⟩ := Task.runs_exec ((taskService k).create ctx d) w
  rw [h] at hrun
  -- only a create that added its row answers an id
  cases runs_create hrun with
  | added hp' hr he hc =>
    rename_i c' w₁ w₂ w₃ w₄
    obtain rfl : c = c' := Except.ok.inj (hp.symm.trans hp')
    obtain ⟨h₁, hchain⟩ := hchain.cons_inv
    obtain ⟨h₂, hchain⟩ := hchain.cons_inv
    obtain ⟨h₃, hchain⟩ := hchain.cons_inv
    obtain ⟨h₄, hchain⟩ := hchain.cons_inv
    have hend := hchain.nil_inv
    change w₁ = w at h₁
    change w₂ = (registerObs k ctx d c w₁).post at h₂
    change w₃ = (insertObs k ctx d c w₂).post at h₃
    change w₄ = (commitObs k d c w₃).post at h₄
    subst w₁ w₂ w₃ w₄
    -- the world the insert wrote in grew from `w`, so its ids are below its counter
    have hgrow : w.Grows (insertObs k ctx d c (registerObs k ctx d c w).post).post :=
      (keptBy_grows.register ctx _ w).trans (keptBy_grows.enter k _ _ _)
    have hfake := hgrow.fake hw k
    refine ⟨?_, ?_⟩
    · have hpos := hfake.counter_pos
      simp only [AccountId.isAssigned, bne_iff_ne, ne_eq]
      omega
    · rw [hend]
      show (((logEvent _).run (commitObs k d c _).post).2.table k).Holds _
      rw [table_logEvent, commitObs_post k d _ hc, table_withTable]
      exact Table.holds_add hfake.id_lt hc

end Writes

/-! ## Round trips -/

/-- What a create or an update of the service of kind `k` with the draft `x`, whose tax id
parses to `c`, does in the world `w`, as the lookups read it back. -/
structure RoundTrips (w : World) (k : AccountKind) (ctx : CallContext) (x : AccountDraft) (c : Cpf) : Prop where
  /-- A create that succeeds gives an assigned id, under which both lookups find the
  account until an update of that id succeeds. -/
  create : ∀ id, (((service k).create ctx x).run w).1 = .ok id → id.isAssigned ∧
    ∀ w', Reaches (fun act r => ¬ act.Overwrites k id r) (((service k).create ctx x).run w).2 w' →
      Finds w' k ⟨id, x.name, c, x.email⟩
  /-- An update that succeeds is found the same way. -/
  update : (((service k).update ctx x).run w).1 = .ok () →
    ∀ w', Reaches (fun act r => ¬ act.Overwrites k x.id r) (((service k).update ctx x).run w).2 w' →
      Finds w' k ⟨x.id, x.name, c, x.email⟩
  /-- An update of an id with no row fails as not found and writes nothing. -/
  update_missing : x.id ∉ (w.table k).rows.map (·.id) →
    (((service k).update ctx x).run w).1 = .error ⟨.notFound, 404, "account not found", some k.serviceName⟩ ∧
      ∀ k', (((service k).update ctx x).run w).2.table k' = w.table k'

/-- **Round trips**: what a create or an update writes is what both lookups find until an update
of its id succeeds, and an update of an id with no row is refused and writes nothing. -/
theorem create_update_round_trip {w₀ w : World} (h₀ : w₀.Fake) (hw : Reaches (fun _ _ => True) w₀ w)
    (k : AccountKind) (ctx : CallContext) (x : AccountDraft) {c : Cpf} (hc : Cpf.parse x.cpf = .ok c) :
    RoundTrips w k ctx x c := by
  have hfake : w.Fake := hw.fake h₀
  have hslot := (hfake k).take (show TableOp.save ≠ .insert from nofun)
  obtain ⟨hr₁, ht₁⟩ := (sim_update ctx x).run w
  have hfake₁ : (((service k).update ctx x).run w).2.Fake :=
    (Task.All.exec (all_update keptBy_fake ctx fake_saves x) hfake).of_tables ht₁
  have hu := update_exec ctx hslot hc
  refine ⟨fun id hid => ?_, fun hok w' hr => ?_, fun hmiss => ?_⟩
  · -- a create
    obtain ⟨hr₀, ht₀⟩ := (sim_create ctx x).run w
    obtain ⟨hassigned, hholds⟩ := create_exec_ok ctx hfake hc (hr₀ ▸ hid)
    refine ⟨hassigned, fun w' hr => ?_⟩
    have hfake₀ : (((service k).create ctx x).run w).2.Fake :=
      (Task.All.exec (all_create keptBy_fake ctx x) hfake).of_tables ht₀
    rw [← ht₀ k] at hholds
    exact hr.finds hfake₀ hholds (Cpf.parse_digits hc)
  · -- an update that succeeded saved its account
    rcases hs : (w.table k).save (x.toAccount c) with e | t <;> rw [hs] at hu
    · rw [hr₁, hu.1] at hok
      cases hok
    · have hholds : ((((service k).update ctx x).run w).2.table k).Holds ⟨x.id, x.name, c, x.email⟩ := by
        rw [ht₁ k, hu.2 k, if_pos rfl]
        exact Table.holds_of_save hs
      exact hr.finds hfake₁ hholds (Cpf.parse_digits hc)
  · -- an update of a missing id
    have hnf : (w.table k).save (x.toAccount c) = .error .notFound := Table.save_of_not_mem hmiss
    rw [hnf] at hu
    exact ⟨hr₁.trans hu.1, fun k' => (ht₁ k').trans (hu.2 k')⟩

/-- A fresh world, a draft with a valid tax id, and the round trips of its create and update. -/
theorem create_update_round_trip_fresh :
    World.Fake {} ∧ Reaches (fun _ _ => True) {} {} ∧ Cpf.parse "171.079.720-73" = .ok ⟨"17107972073"⟩ ∧
      RoundTrips {} .customer {} ⟨⟨7⟩, "Ana Souza", "171.079.720-73", "ana@example.com"⟩ ⟨"17107972073"⟩ :=
  have h₀ : World.Fake {} := fun k => by
    cases k <;> exact ⟨fun _ h => absurd h List.not_mem_nil, le_refl _, fun _ h => absurd h List.not_mem_nil⟩
  ⟨h₀, .refl _, rfl, create_update_round_trip h₀ (.refl _) .customer {} _ rfl⟩

example :
    let x : AccountDraft := ⟨⟨7⟩, "Ana Souza", "171.079.720-73", "ana@example.com"⟩
    (((service .customer).getById {} ⟨1⟩).run (((service .customer).create {} x).run {}).2).1 =
      .ok ⟨⟨1⟩, "Ana Souza", ⟨"17107972073"⟩, "ana@example.com"⟩ := by
  rfl

end AccountRegistry.Memory
