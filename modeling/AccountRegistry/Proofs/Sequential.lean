import AccountRegistry.Proofs.Alone

/-!
# Requests one at a time

A test drives the fakes one action at a time (`Reaches`): a request to a service, a row
stored directly, or a failure armed through the fakes' interface, which arms registrations,
logins and inserts only. Every world it reaches from a fake world is fake (`Reaches.fake`):
each id is below its table's counter, the counters start from 1, and every armed table
failure is an insert's (`Table.Fake`).

A table holds a row (`Table.Holds`) when no row before it has its id or its tax id, so that
both lookups find that row. A held row stays held through every action except an update of
its id that succeeds (`Reaches.holds`).

Both are read off what one step can do to the tables. Every capability but a save only adds
rows under the counters and takes armed failures (`keptBy_grows`). A lone update either
writes nothing or leaves the table that the save of its account gives (`update_exec`).
-/

set_option autoImplicit false

namespace AccountRegistry.Memory

/-! ## Held rows and growing tables -/

namespace Table

variable {t t' t'' : Table} {a b : Account}

/-- The table holds the row `a`: no row before it has its id or its tax id. -/
def Holds (t : Table) (a : Account) : Prop :=
  ∃ pre post, t.rows = pre ++ a :: post ∧ ∀ r ∈ pre, r.id ≠ a.id ∧ r.cpf ≠ a.cpf

theorem Holds.findById (h : t.Holds a) : t.findById a.id = .ok a := by
  obtain ⟨pre, post, hrows, hpre⟩ := h
  have hskip : pre.find? (·.id == a.id) = none :=
    List.find?_eq_none.2 fun r hr => by simpa using (hpre r hr).1
  simp [Table.findById, hrows, List.find?_append, hskip]

theorem Holds.findByTaxId (h : t.Holds a) : t.findByTaxId a.cpf = .ok a := by
  obtain ⟨pre, post, hrows, hpre⟩ := h
  have hskip : pre.find? (·.cpf == a.cpf) = none :=
    List.find?_eq_none.2 fun r hr => by simpa using (hpre r hr).2
  simp [Table.findByTaxId, hrows, List.find?_append, hskip]

theorem Holds.append (h : t.Holds a) {new : List Account} (ht : t'.rows = t.rows ++ new) : t'.Holds a := by
  obtain ⟨pre, post, hrows, hpre⟩ := h
  exact ⟨pre, post ++ new, by simp [ht, hrows], hpre⟩

/-- A save of another id keeps a row held, since the save refuses the held row's tax id. -/
theorem Holds.save (h : t.Holds a) (hs : t.save b = .ok t') (hb : a.id ≠ b.id) : t'.Holds a := by
  obtain ⟨-, hfree, rfl⟩ := save_eq_ok_iff.1 hs
  obtain ⟨pre, post, hrows, hpre⟩ := h
  have hcpf : a.cpf ≠ b.cpf := fun hc => hb (hfree a (by simp [hrows]) hc)
  refine ⟨pre.map fun r => if r.id = b.id then b else r, post.map fun r => if r.id = b.id then b else r,
    by simp [hrows, hb], fun r hr => ?_⟩
  obtain ⟨r₀, hr₀, rfl⟩ := List.mem_map.1 hr
  by_cases h₀ : r₀.id = b.id
  · -- the row replaced is the saved account
    rw [if_pos h₀]
    exact ⟨Ne.symm hb, Ne.symm hcpf⟩
  · rw [if_neg h₀]
    exact hpre r₀ hr₀

/-- Putting an account in place of the rows of its id, when no row of another id has its tax
id, makes it the first row for both. -/
theorem holds_put {rows : List Account} (hmem : b.id ∈ rows.map (·.id))
    (hfree : ∀ r ∈ rows, r.cpf = b.cpf → r.id = b.id) :
    ∃ pre post, rows.map (fun r => if r.id = b.id then b else r) = pre ++ b :: post ∧
      ∀ r ∈ pre, r.id ≠ b.id ∧ r.cpf ≠ b.cpf := by
  induction rows with
  | nil => simp at hmem
  | cons r rs ih =>
    by_cases hr : r.id = b.id
    · exact ⟨[], rs.map fun r => if r.id = b.id then b else r, by simp [hr], by simp⟩
    · have hmem' : b.id ∈ rs.map (·.id) := by
        simp only [List.map_cons, List.mem_cons] at hmem
        exact hmem.resolve_left fun h => hr h.symm
      obtain ⟨pre, post, he, hpre⟩ := ih hmem' fun r' h' => hfree r' (List.mem_cons_of_mem _ h')
      refine ⟨r :: pre, post, by simp [hr, he], fun r' hr' => ?_⟩
      rcases List.mem_cons.1 hr' with rfl | hr'
      · exact ⟨hr, fun hc => hr (hfree r' List.mem_cons_self hc)⟩
      · exact hpre r' hr'

/-- The account a save writes is held by the table it leaves. -/
theorem holds_of_save (hs : t.save b = .ok t') : t'.Holds b := by
  obtain ⟨hmem, hfree, rfl⟩ := save_eq_ok_iff.1 hs
  exact holds_put hmem hfree

/-- The row an add writes is held, when the ids are below the counter and its tax id is free. -/
theorem holds_add (hid : ∀ r ∈ t.rows, r.id.val < t.nextId) (hc : a.cpf ∉ t.rows.map (·.cpf)) :
    (t.add a).2.Holds { a with id := ⟨t.nextId⟩ } := by
  refine ⟨t.rows, [], by simp, fun r hr => ⟨fun he => ?_, fun he => hc (List.mem_map.2 ⟨r, hr, he⟩)⟩⟩
  have hlt := hid r hr
  rw [he] at hlt
  exact lt_irrefl _ hlt

/-- The table `t'` only adds rows to `t`, under its counter, and takes armed failures. -/
structure Grows (t t' : Table) : Prop where
  rows : ∃ new, t'.rows = t.rows ++ new ∧ ∀ r ∈ new, r.id.val < t'.nextId
  counter : t.nextId ≤ t'.nextId
  armed : ∀ p ∈ t'.armed, p ∈ t.armed

theorem Grows.refl (t : Table) : t.Grows t := ⟨⟨[], by simp, by simp⟩, le_refl _, fun _ h => h⟩

theorem Grows.trans (h₁ : t.Grows t') (h₂ : t'.Grows t'') : t.Grows t'' where
  rows := by
    obtain ⟨n₁, hr₁, hn₁⟩ := h₁.rows
    obtain ⟨n₂, hr₂, hn₂⟩ := h₂.rows
    refine ⟨n₁ ++ n₂, by simp [hr₂, hr₁], fun r hr => ?_⟩
    rcases List.mem_append.1 hr with hr | hr
    · exact lt_of_lt_of_le (hn₁ r hr) h₂.counter
    · exact hn₂ r hr
  counter := le_trans h₁.counter h₂.counter
  armed p hp := h₁.armed p (h₂.armed p hp)

theorem Grows.holds (h : t.Grows t') (ha : t.Holds a) : t'.Holds a := by
  obtain ⟨new, hrows, -⟩ := h.rows
  exact ha.append hrows

theorem mem_take_armed {op : TableOp} {p : TableOp × StoreFailure} (h : p ∈ (t.take op).2.armed) : p ∈ t.armed := by
  unfold take at h
  split at h
  · exact List.mem_of_mem_filter h
  · exact h

theorem grows_take (op : TableOp) : t.Grows (t.take op).2 :=
  ⟨⟨[], by simp, by simp⟩, by simp, fun _ h => mem_take_armed h⟩

theorem grows_add (a : Account) : t.Grows (t.add a).2 :=
  ⟨⟨[{ a with id := ⟨t.nextId⟩ }], by simp, by simp⟩, by simp, fun _ h => h⟩

/-- A table as the fakes' interface leaves it: its ids are below its counter, which starts
from 1, and every failure armed on it is an insert's. -/
structure Fake (t : Table) : Prop where
  id_lt : ∀ r ∈ t.rows, r.id.val < t.nextId
  counter_pos : 1 ≤ t.nextId
  armed_insert : ∀ p ∈ t.armed, p.1 = .insert

theorem Grows.fake (h : t.Grows t') (ht : t.Fake) : t'.Fake where
  id_lt r hr := by
    obtain ⟨new, hrows, hnew⟩ := h.rows
    rw [hrows] at hr
    rcases List.mem_append.1 hr with hr | hr
    · exact lt_of_lt_of_le (ht.id_lt r hr) h.counter
    · exact hnew r hr
  counter_pos := le_trans ht.counter_pos h.counter
  armed_insert p hp := ht.armed_insert p (h.armed p hp)

/-- A save keeps the ids, so it keeps a table fake. -/
theorem Fake.save (ht : t.Fake) (hs : t.save a = .ok t') : t'.Fake := by
  obtain ⟨hmem, -, rfl⟩ := save_eq_ok_iff.1 hs
  refine ⟨fun r hr => ?_, ht.counter_pos, ht.armed_insert⟩
  obtain ⟨r₀, hr₀, rfl⟩ := List.mem_map.1 hr
  by_cases h₀ : r₀.id = a.id
  · -- the saved account takes the id of a row already there
    obtain ⟨r₁, hr₁, he⟩ := List.mem_map.1 hmem
    rw [if_pos h₀, ← he]
    exact ht.id_lt r₁ hr₁
  · rw [if_neg h₀]
    exact ht.id_lt r₀ hr₀

theorem Fake.arm_insert (ht : t.Fake) (e : StoreFailure) : (t.arm .insert e).Fake := by
  refine ⟨ht.id_lt, ht.counter_pos, fun p hp => ?_⟩
  rcases List.mem_cons.1 hp with rfl | hp
  · rfl
  · exact ht.armed_insert p (List.mem_of_mem_filter hp)

/-- In a fake table only an insert's slot can fire. -/
theorem Fake.take (ht : t.Fake) {op : TableOp} (hop : op ≠ .insert) : t.take op = (none, t) := by
  have hnone : t.armed.find? (·.1 == op) = none :=
    List.find?_eq_none.2 fun p hp => by simp [ht.armed_insert p hp, Ne.symm hop]
  simp [Table.take, hnone]

end Table

namespace World

variable {w w' w'' w₁ : World}

/-- Every table of `w'` only adds to that of `w`. -/
def Grows (w w' : World) : Prop := ∀ k, (w.table k).Grows (w'.table k)

/-- Every table of the world is as the fakes' interface leaves it. -/
def Fake (w : World) : Prop := ∀ k, (w.table k).Fake

theorem Grows.of_tables (h : ∀ k, w'.table k = w.table k) : w.Grows w' := fun k => by
  rw [h k]
  exact .refl _

theorem Grows.trans (h₁ : w.Grows w') (h₂ : w'.Grows w'') : w.Grows w'' := fun k => (h₁ k).trans (h₂ k)

theorem Grows.fake (h : w.Grows w') (hw : w.Fake) : w'.Fake := fun k => (h k).fake (hw k)

/-- Replacing one table of a world whose tables are those of `w`. -/
theorem table_withTable_eq (h : ∀ k, w₁.table k = w.table k) (k : AccountKind) (t : Table) (k' : AccountKind) :
    (w₁.withTable k t).table k' = if k' = k then t else w.table k' := by
  split
  · next hk =>
    subst hk
    exact table_withTable _ _ _
  · next hk => rw [table_withTable_of_ne _ _ hk, h]

/-- Putting back a table of `w` in a world whose tables are those of `w`. -/
theorem table_withTable_same (h : ∀ k, w₁.table k = w.table k) (k k' : AccountKind) :
    (w₁.withTable k (w.table k)).table k' = w.table k' := by
  rw [table_withTable_eq h]
  split
  · next hk => rw [hk]
  · rfl

theorem Grows.withTable (h : ∀ k, w₁.table k = w.table k) {k : AccountKind} {t : Table}
    (ht : (w.table k).Grows t) : w.Grows (w₁.withTable k t) := fun k' => by
  rw [table_withTable_eq h]
  split
  · next hk =>
    subst hk
    exact ht
  · exact .refl _

theorem Fake.of_tables (hw : w.Fake) (h : ∀ k, w'.table k = w.table k) : w'.Fake := fun k => by
  rw [h k]
  exact hw k

theorem Fake.withTable (hw : w.Fake) (h : ∀ k, w₁.table k = w.table k) {k : AccountKind} {t : Table}
    (ht : t.Fake) : (w₁.withTable k t).Fake := fun k' => by
  rw [table_withTable_eq h]
  split
  · exact ht
  · exact hw k'

end World

/-! ## What one step does to the tables -/

section Steps

open World

variable {k : AccountKind} (ctx : CallContext) {w : World}

@[simp] theorem table_logEvent (e : LogEvent) (w : World) (k : AccountKind) :
    ((logEvent e).run w).2.table k = w.table k :=
  table_eq_of rfl rfl k

theorem grows_enter (k : AccountKind) (op : TableOp) (c : TableCall) (w : World) :
    w.Grows ((enter k op c).run w).2 := by
  have hcalls : ∀ k', ({ w with calls := w.calls ++ [Call.table k c] } : World).table k' = w.table k' :=
    table_eq_of rfl rfl
  rw [enter_run]
  exact Grows.withTable hcalls (Table.grows_take op)

/-- A table operation that leaves its table as it found it. -/
theorem grows_commit_read {α : Type} {f : Table → Except StoreFailure (α × Table)}
    (hf : ∀ t a t', f t = .ok (a, t') → t' = t) (w : World) : w.Grows ((commit k f).run w).2 := by
  rw [commit_run]
  rcases h : f (w.table k) with e | ⟨a, t⟩
  · exact Grows.of_tables fun _ => rfl
  · rw [hf _ a t h]
    exact Grows.withTable (fun _ => rfl) (.refl _)

theorem grows_onTable_read {α : Type} {op : TableOp} {c : TableCall} {f : Table → Except StoreFailure (α × Table)}
    (hf : ∀ t a t', f t = .ok (a, t') → t' = t) (w : World) : w.Grows ((onTable k op c f).run w).2 := by
  have he := grows_enter k op c w
  rw [onTable_run]
  rcases h : (enter k op c).run w with ⟨_ | e, w'⟩ <;> rw [h] at he
  · exact he.trans (grows_commit_read hf w')
  · exact he

/-- A read leaves the table it reads. -/
theorem read_keeps {α : Type} (g : Table → Except StoreFailure α) (t : Table) (a : α) (t' : Table)
    (h : (g t).map (·, t) = .ok (a, t')) : t' = t := by
  rcases hg : g t with e | b <;> rw [hg] at h
  · cases h
  · cases h
    rfl

/-- **Every capability but a save** only adds rows under the counters and takes armed failures. -/
theorem keptBy_grows : KeptBy World.Grows where
  register ctx r w := by
    rw [register_run]
    exact Grows.of_tables (table_eq_of rfl rfl)
  authenticate ctx taxId w := by
    rw [authenticate_run_snd]
    exact Grows.of_tables (table_eq_of rfl rfl)
  authenticateAnonymous ctx w := by
    rw [authenticateAnonymous_run_snd]
    exact Grows.of_tables (table_eq_of rfl rfl)
  enter k op c w := grows_enter k op c w
  insert k a _ w := by
    rw [commit_run]
    rcases h : (w.table k).insert a with e | ⟨id, t⟩
    · exact Grows.of_tables fun _ => rfl
    · obtain ⟨-, hp⟩ := Table.insert_eq_ok_iff.1 h
      rw [(Prod.mk.inj hp).2]
      exact Grows.withTable (fun _ => rfl) (Table.grows_add a)
  findById k _ id w := grows_onTable_read (read_keeps _) w
  findByTaxId k _ cpf w := grows_onTable_read (read_keeps _) w
  ping k w := by
    cases hd : w.defaultPing
    · simp [store, hd]
      exact grows_onTable_read (fun _ _ _ h => (Prod.mk.inj (Except.ok.inj h)).2.symm) w
    · simp [store, hd]
      exact Grows.of_tables fun _ => rfl
  log e w := Grows.of_tables (table_logEvent e w)

/-- What a lone task leaves grows from the world it started in. -/
theorem grows_exec {α : Type} {t : Task α} (h : Task.All World.Grows t) (w : World) : w.Grows (t.exec w).2 := by
  have hfrom : Task.All (fun w₁ w₂ => w.Grows w₁ → w.Grows w₂) t := h.mono fun _ _ h₂ h₁ => h₁.trans h₂
  exact hfrom.exec (Grows.of_tables fun _ => rfl)

/-- A save in a world whose save slot is empty answers what the save of the account answers,
and leaves the tables as that save does. -/
theorem save_run (hslot : (w.table k).take .save = (none, w.table k)) (a : Account) :
    (((store k).save ctx a).run w).1 = ((w.table k).save a).map (fun _ => ()) ∧
      ∀ k', (((store k).save ctx a).run w).2.table k' =
        match (w.table k).save a with
        | .ok t => if k' = k then t else w.table k'
        | .error _ => w.table k' := by
  have hcalls : ∀ k', ({ w with calls := w.calls ++ [Call.table k (.save ctx a)] } : World).table k' = w.table k' :=
    table_eq_of rfl rfl
  show ((onTable k .save (.save ctx a) _).run w).1 = _ ∧ ∀ k', ((onTable k .save (.save ctx a) _).run w).2.table k' = _
  rw [onTable_run, enter_run, hslot]
  simp only
  rw [commit_run, World.table_withTable]
  rcases (w.table k).save a with e | t
  · exact ⟨rfl, table_withTable_same hcalls k⟩
  · exact ⟨rfl, table_withTable_eq (table_withTable_same hcalls k) k t⟩

theorem fake_save (hw : w.Fake) (a : Account) : (((store k).save ctx a).run w).2.Fake := by
  obtain ⟨-, ht⟩ := save_run ctx ((hw k).take (show TableOp.save ≠ .insert from nofun)) a
  intro k'
  rw [ht k']
  rcases hs : (w.table k).save a with e | t
  · exact hw k'
  · -- the saved table is fake, the other is untouched
    show Table.Fake (if k' = k then t else w.table k')
    split
    · exact (hw k).save hs
    · exact hw k'

theorem keptBy_fake : KeptBy fun w w' => w.Fake → w'.Fake := keptBy_grows.mono fun _ _ h hw => h.fake hw

theorem fake_saves (k : AccountKind) (ctx : CallContext) (a : Account) (_ : Cpf.parse a.cpf.digits = .ok a.cpf)
    (w : World) (hw : w.Fake) : (((store k).save ctx a).run w).2.Fake :=
  fake_save ctx hw a

/-- **Every request keeps a world fake.** -/
theorem fake_exec (op : Op) (hw : w.Fake) : ((op.serve taskService).exec w).2.Fake :=
  Task.All.exec (all_serve keptBy_fake fake_saves op) hw

end Steps

/-! ## A lone update -/

section Update

open World

variable {k : AccountKind} (ctx : CallContext) {w : World} {d : AccountDraft}

theorem exec_lift_atomic {ε α : Type} [Classify ε] (l : Label) (x : Step (Except ε α)) :
    ((taskService k).lift (Task.atomic l x)).exec w =
      match (x.run w) with
      | (.ok a, w') => (.ok a, w')
      | (.error e, w') => (.error ((Classify.classify e).attributeTo k.serviceName).1,
          ((logEvent ((Classify.classify e).attributeTo k.serviceName).2).run w').2) := by
  unfold AccountService.lift
  rw [Task.bind_eq, Task.exec_bind, Task.exec_atomic]
  rcases x.run w with ⟨e | a, w'⟩ <;> rfl

/-- **A lone update** of an account whose tax id parses, in a world whose save slot is empty,
answers what the save of the account answers; the table of its kind becomes what the save
leaves, and a refused save writes nothing. -/
theorem update_exec {c : Cpf} (hslot : (w.table k).take .save = (none, w.table k)) (hp : Cpf.parse d.cpf = .ok c) :
    match (w.table k).save (d.toAccount c) with
    | .ok t => (((taskService k).update ctx d).exec w).1 = .ok () ∧
        ∀ k', (((taskService k).update ctx d).exec w).2.table k' = if k' = k then t else w.table k'
    | .error e =>
        (((taskService k).update ctx d).exec w).1 = .error ((Classify.classify e).attributeTo k.serviceName).1 ∧
          ∀ k', (((taskService k).update ctx d).exec w).2.table k' = w.table k' := by
  have hupdate : (taskService k).update ctx d =
      (taskService k).lift (Task.atomic (.call (.table k (.save ctx (d.toAccount c)))) ((store k).save ctx (d.toAccount c))) := by
    simp only [AccountService.update, taskService_enclose, hp]
    rfl
  obtain ⟨hr, ht⟩ := save_run ctx hslot (d.toAccount c)
  rw [hupdate, exec_lift_atomic]
  rcases hx : ((store k).save ctx (d.toAccount c)).run w with ⟨r, w'⟩
  rw [hx] at hr ht
  rcases hs : (w.table k).save (d.toAccount c) with e | t <;> rw [hs] at hr ht
  · obtain rfl : r = .error e := hr
    exact ⟨rfl, fun k' => (table_logEvent _ _ k').trans (ht k')⟩
  · obtain rfl : r = .ok () := hr
    exact ⟨rfl, ht⟩

/-- An update whose tax id does not parse writes nothing. -/
theorem update_exec_invalid {e : CpfError} (hp : Cpf.parse d.cpf = .error e) :
    (((taskService k).update ctx d).exec w).1 =
        .error ((AccountService.invalidCpf e).attributeTo k.serviceName).1 ∧
      ∀ k', (((taskService k).update ctx d).exec w).2.table k' = w.table k' := by
  have hupdate : (taskService k).update ctx d = (do
      let f ← (taskService k).fail (AccountService.invalidCpf e)
      pure (.error f)) := by
    simp only [AccountService.update, taskService_enclose, hp]
  rw [hupdate]
  exact ⟨rfl, table_eq_of rfl rfl⟩

end Update

/-! ## One action at a time -/

section Actions

open World

variable {w : World}

/-- The action overwrote the row of the id `id` in the table of kind `k`: it is an update of
that id that succeeded. -/
def Action.Overwrites (k : AccountKind) (id : AccountId) : Action → Option Reply → Prop
  | .request (.update k' _ d), some (.updated (.ok ())) => k' = k ∧ d.id = id
  | _, _ => False

theorem Action.run_update (k : AccountKind) (ctx : CallContext) (d : AccountDraft) (w : World) :
    (Action.request (.update k ctx d)).run w =
      (some (.updated (((service k).update ctx d).run w).1), (((service k).update ctx d).run w).2) := by
  show (some <$> (Reply.updated <$> (service k).update ctx d)).run w = _
  rw [StateM.run_map, StateM.run_map]

/-- **Every action keeps a world fake.** -/
theorem fake_run (act : Action) (hw : w.Fake) : (act.run w).2.Fake := by
  cases act with
  | request op =>
    obtain ⟨-, ht⟩ := (sim_serve op).run w
    exact (fake_exec op hw).of_tables ht
  | seed k name cpf email =>
    show (w.withTable k ((w.table k).add ⟨AccountId.unassigned, name, cpf, email⟩).2).Fake
    exact (Grows.withTable (fun _ => rfl) (Table.grows_add _)).fake hw
  | failRegister e =>
    show ({ w with registerArmed := some e } : World).Fake
    exact hw.of_tables (table_eq_of rfl rfl)
  | failLogin e =>
    show ({ w with loginArmed := some e } : World).Fake
    exact hw.of_tables (table_eq_of rfl rfl)
  | failInsert k e =>
    show (w.withTable k ((w.table k).arm .insert e)).Fake
    exact hw.withTable (fun _ => rfl) ((hw k).arm_insert e)

/-- A lone update keeps a held row unless it succeeds on that row's id. -/
theorem holds_update {k k' : AccountKind} (ctx : CallContext) {d : AccountDraft} {a : Account} (hw : w.Fake)
    (ha : (w.table k).Holds a) (hno : (((taskService k').update ctx d).exec w).1 = .ok () → k' = k → d.id ≠ a.id) :
    ((((taskService k').update ctx d).exec w).2.table k).Holds a := by
  have hslot := (hw k').take (show TableOp.save ≠ .insert from nofun)
  rcases hp : Cpf.parse d.cpf with e | c
  · rw [(update_exec_invalid ctx hp).2 k]
    exact ha
  · have hu := update_exec ctx hslot hp
    rcases hs : (w.table k').save (d.toAccount c) with e | t <;> rw [hs] at hu
    · rw [hu.2 k]
      exact ha
    · rw [hu.2 k]
      split
      · next hk =>
        -- the update saved into the held row's table, under another id
        subst hk
        exact ha.save hs fun hid => hno hu.1 rfl hid.symm
      · exact ha

theorem holds_request_grows (op : Op) (hop : ∀ k ctx d, op ≠ .update k ctx d) {k : AccountKind}
    {a : Account} (ha : (w.table k).Holds a) : (((Action.request op).run w).2.table k).Holds a := by
  obtain ⟨-, ht⟩ := (sim_serve op).run w
  show ((((op.serve service).run w).2).table k).Holds a
  rw [ht k]
  exact (grows_exec (all_serve_of_ne_update keptBy_grows op hop) w k).holds ha

theorem holds_request_update {k k' : AccountKind} (ctx : CallContext) (d : AccountDraft) {a : Account} (hw : w.Fake)
    (hno : ¬ (Action.request (.update k' ctx d)).Overwrites k a.id ((Action.request (.update k' ctx d)).run w).1)
    (ha : (w.table k).Holds a) : (((Action.request (.update k' ctx d)).run w).2.table k).Holds a := by
  obtain ⟨hr, ht⟩ := (sim_update ctx d).run w
  rw [Action.run_update] at hno ⊢
  rw [ht k]
  refine holds_update ctx hw ha fun hok hk hid => hno ?_
  -- the update answered success on the held row's id, so it overwrote that row
  rw [hr, hok]
  exact ⟨hk, hid⟩

/-- **Every action but an update of its id that succeeds keeps a row held.** -/
theorem holds_run (act : Action) (hw : w.Fake) {k : AccountKind} {a : Account}
    (hno : ¬ act.Overwrites k a.id (act.run w).1) (ha : (w.table k).Holds a) : ((act.run w).2.table k).Holds a := by
  cases act with
  | request op =>
    cases op
    case update k' ctx d => exact holds_request_update ctx d hw hno ha
    all_goals exact holds_request_grows _ (fun _ _ _ h => Op.noConfusion h) ha
  | seed k' name cpf email =>
    show ((w.withTable k' ((w.table k').add ⟨AccountId.unassigned, name, cpf, email⟩).2).table k).Holds a
    exact (Grows.withTable (fun _ => rfl) (Table.grows_add _) k).holds ha
  | failRegister e => exact ha
  | failLogin e => exact ha
  | failInsert k' e =>
    show ((w.withTable k' ((w.table k').arm .insert e)).table k).Holds a
    rw [table_withTable_eq (fun _ => rfl)]
    split
    · next hk =>
      subst hk
      exact ha
    · exact ha

/-- **Every world a test reaches from a fake world is fake.** -/
theorem Reaches.fake {allowed : Action → Option Reply → Prop} {w' : World} (h : Reaches allowed w w')
    (hw : w.Fake) : w'.Fake := by
  induction h with
  | refl => exact hw
  | step act _ _ ih => exact ih (fake_run act hw)

/-- **A held row stays held** through every action but an update of its id that succeeds. -/
theorem Reaches.holds {k : AccountKind} {a : Account} {w' : World}
    (h : Reaches (fun act r => ¬ act.Overwrites k a.id r) w w') (hw : w.Fake) (ha : (w.table k).Holds a) :
    (w'.table k).Holds a := by
  induction h with
  | refl => exact ha
  | step act hno _ ih => exact ih (fake_run act hw) (holds_run act hw hno ha)

end Actions

end AccountRegistry.Memory
