import AccountRegistry.Memory.Concurrent
import AccountRegistry.Proofs.CpfCheck

/-!
# Well-formed tables

A table is well formed (`Table.Wf`) when its ids are distinct and lie between 1 and its
counter, and its tax ids are distinct normal forms of valid CPFs. Adding a row under the
counter keeps this when the tax id is new and valid (`Table.Wf.add`), hence so does an
insert of a parsed tax id (`Table.Wf.insert`); a save keeps it too (`Table.Wf.save`),
since it keeps every id and refuses a tax id held by another row.

The world's steps are described by their run equations (`register_run`, `enter_run`,
`commit_run`, `onTable_run`). The provider's calls, firing a slot, arming and logging keep
the rows and counters of both tables (`World.SameRows`); every table operation of a
service keeps both tables well formed and moves each counter by at most one
(`World.Guarantee`, `guarantee_onTable`), as long as the accounts it writes hold parsed
tax ids (`Table.Safe`).
-/

set_option autoImplicit false

namespace AccountRegistry.Memory

/-! ## Tables -/

namespace Table

variable (t : Table)

@[simp] theorem take_rows (op : TableOp) : (t.take op).2.rows = t.rows := by
  unfold take
  split <;> rfl

@[simp] theorem take_nextId (op : TableOp) : (t.take op).2.nextId = t.nextId := by
  unfold take
  split <;> rfl

@[simp] theorem arm_rows (op : TableOp) (e : StoreFailure) : (t.arm op e).rows = t.rows := rfl

@[simp] theorem arm_nextId (op : TableOp) (e : StoreFailure) : (t.arm op e).nextId = t.nextId := rfl

@[simp] theorem add_id (a : Account) : (t.add a).1 = ⟨t.nextId⟩ := rfl

@[simp] theorem add_rows (a : Account) : (t.add a).2.rows = t.rows ++ [{ a with id := ⟨t.nextId⟩ }] := rfl

@[simp] theorem add_nextId (a : Account) : (t.add a).2.nextId = t.nextId + 1 := rfl

@[simp] theorem add_armed (a : Account) : (t.add a).2.armed = t.armed := rfl

variable {t}

/-- The insert's check: some row holds the tax id. -/
theorem any_cpf_iff {a : Account} : t.rows.any (·.cpf == a.cpf) = true ↔ a.cpf ∈ t.rows.map (·.cpf) := by
  simp

theorem insert_eq_ok_iff {a : Account} {p : AccountId × Table} :
    t.insert a = .ok p ↔ a.cpf ∉ t.rows.map (·.cpf) ∧ p = t.add a := by
  unfold insert
  by_cases h : a.cpf ∈ t.rows.map (·.cpf)
  · simp only [if_pos (any_cpf_iff.2 h), h, not_true_eq_false, false_and, iff_false]
    exact nofun
  · simp only [if_neg (mt any_cpf_iff.1 h), h, not_false_eq_true, true_and, Except.ok.injEq]
    exact eq_comm

theorem insert_eq_error_iff {a : Account} {e : StoreFailure} :
    t.insert a = .error e ↔ a.cpf ∈ t.rows.map (·.cpf) ∧ e = taken := by
  unfold insert
  by_cases h : a.cpf ∈ t.rows.map (·.cpf)
  · simp only [if_pos (any_cpf_iff.2 h), h, true_and, Except.error.injEq]
    exact eq_comm
  · simp only [if_neg (mt any_cpf_iff.1 h), h, false_and, iff_false]
    exact nofun

theorem save_eq_ok_iff {a : Account} {t' : Table} :
    t.save a = .ok t' ↔ a.id ∈ t.rows.map (·.id) ∧ (∀ r ∈ t.rows, r.cpf = a.cpf → r.id = a.id) ∧
      t' = { t with rows := t.rows.map fun r => if r.id = a.id then a else r } := by
  have hfree : t.rows.any (fun r => r.id != a.id && r.cpf == a.cpf) = false ↔
      ∀ r ∈ t.rows, r.cpf = a.cpf → r.id = a.id := by
    simp only [List.any_eq_false, Bool.and_eq_true, bne_iff_ne, ne_eq, beq_iff_eq, not_and]
    exact forall₂_congr fun r _ => not_imp_not
  unfold save
  by_cases hm : a.id ∈ t.rows.map (·.id)
  · have hany : t.rows.any (·.id == a.id) = true := by simpa using hm
    by_cases hf : ∀ r ∈ t.rows, r.cpf = a.cpf → r.id = a.id
    · simp only [hany, Bool.not_true, Bool.false_eq_true, if_false, hfree.2 hf, hm, true_and,
        Except.ok.injEq, beq_iff_eq]
      exact ⟨fun he => ⟨hf, he.symm⟩, fun h => h.2.symm⟩
    · have hc : t.rows.any (fun r => r.id != a.id && r.cpf == a.cpf) = true := by
        simpa using mt hfree.1 hf
      simp only [hany, hc, Bool.not_true, Bool.false_eq_true, if_false, if_true, hf, false_and, and_false,
        iff_false]
      exact nofun
  · have hany : t.rows.any (·.id == a.id) = false := by simpa using hm
    simp only [hany, Bool.not_false, if_true, hm, false_and, iff_false]
    exact nofun

/-- A save of an id with no row is refused as not found. -/
theorem save_of_not_mem {a : Account} (h : a.id ∉ t.rows.map (·.id)) : t.save a = .error .notFound := by
  have hany : t.rows.any (·.id == a.id) = false := by
    simpa using h
  simp [save, hany]

/-- A well-formed table: its ids are distinct and lie between 1 and its counter, and its
tax ids are distinct normal forms of valid CPFs. -/
structure Wf (t : Table) : Prop where
  ids_nodup : (t.rows.map (·.id)).Nodup
  id_pos : ∀ r ∈ t.rows, 1 ≤ r.id.val
  id_lt : ∀ r ∈ t.rows, r.id.val < t.nextId
  counter_pos : 1 ≤ t.nextId
  cpfs_nodup : (t.rows.map (·.cpf)).Nodup
  cpf_valid : ∀ r ∈ t.rows, Cpf.parse r.cpf.digits = .ok r.cpf

/-- Well-formedness depends on the rows and the counter only. -/
theorem Wf.of_rows {t' : Table} (h : t.Wf) (hr : t'.rows = t.rows) (hn : t'.nextId = t.nextId) : t'.Wf := by
  obtain ⟨h₁, h₂, h₃, h₄, h₅, h₆⟩ := h
  exact ⟨hr ▸ h₁, hr ▸ h₂, hr ▸ hn ▸ h₃, hn ▸ h₄, hr ▸ h₅, hr ▸ h₆⟩

/-- The counter is above every id of a well-formed table. -/
theorem Wf.counter_not_mem (h : t.Wf) : (⟨t.nextId⟩ : AccountId) ∉ t.rows.map (·.id) := by
  simp only [List.mem_map, not_exists, not_and]
  intro r hr hid
  have hlt := h.id_lt r hr
  rw [hid] at hlt
  exact lt_irrefl _ hlt

/-- **Adding a row** with a new, valid tax id keeps a table well formed. -/
theorem Wf.add {a : Account} (h : t.Wf) (hc : a.cpf ∉ t.rows.map (·.cpf))
    (hv : Cpf.parse a.cpf.digits = .ok a.cpf) : (t.add a).2.Wf where
  ids_nodup := by
    rw [add_rows, List.map_append, List.nodup_append]
    refine ⟨h.ids_nodup, List.nodup_singleton _, ?_⟩
    intro x hx y hy
    simp only [List.map_cons, List.map_nil, List.mem_singleton] at hy
    rintro rfl
    exact h.counter_not_mem (hy ▸ hx)
  id_pos := by
    rintro r hr
    rcases List.mem_append.1 (add_rows t a ▸ hr) with hr | hr
    · exact h.id_pos r hr
    · rw [List.mem_singleton.1 hr]
      exact h.counter_pos
  id_lt := by
    rintro r hr
    rw [add_nextId]
    rcases List.mem_append.1 (add_rows t a ▸ hr) with hr | hr
    · have := h.id_lt r hr
      omega
    · rw [List.mem_singleton.1 hr]
      show t.nextId < t.nextId + 1
      omega
  counter_pos := by
    rw [add_nextId]
    have := h.counter_pos
    omega
  cpfs_nodup := by
    rw [add_rows, List.map_append, List.nodup_append]
    refine ⟨h.cpfs_nodup, List.nodup_singleton _, ?_⟩
    intro x hx y hy
    simp only [List.map_cons, List.map_nil, List.mem_singleton] at hy
    rintro rfl
    exact hc (hy ▸ hx)
  cpf_valid := by
    rintro r hr
    rcases List.mem_append.1 (add_rows t a ▸ hr) with hr | hr
    · exact h.cpf_valid r hr
    · rw [List.mem_singleton.1 hr]
      exact hv

/-- **An insert** of an account with a valid tax id keeps a table well formed. -/
theorem Wf.insert {a : Account} {p : AccountId × Table} (h : t.Wf) (hv : Cpf.parse a.cpf.digits = .ok a.cpf)
    (hi : t.insert a = .ok p) : p.2.Wf := by
  obtain ⟨hc, rfl⟩ := insert_eq_ok_iff.1 hi
  exact h.add hc hv

/-- **A save** of an account with a valid tax id keeps a table well formed: the row it
replaces carries the same id, and no other row holds the tax id. -/
theorem Wf.save {a : Account} {t' : Table} (h : t.Wf) (hv : Cpf.parse a.cpf.digits = .ok a.cpf)
    (hs : t.save a = .ok t') : t'.Wf := by
  obtain ⟨-, hfree, rfl⟩ := save_eq_ok_iff.1 hs
  have hids : (t.rows.map fun r => if r.id = a.id then a else r).map (·.id) = t.rows.map (·.id) := by
    rw [List.map_map]
    apply List.map_congr_left
    intro r _
    by_cases hr : r.id = a.id <;> simp [hr]
  have hold : ∀ r ∈ t.rows.map (fun r => if r.id = a.id then a else r), ∃ r₀ ∈ t.rows, r₀.id = r.id := by
    intro r hr
    have hmem : r.id ∈ t.rows.map (·.id) := hids ▸ List.mem_map_of_mem hr
    simpa using hmem
  refine ⟨hids ▸ h.ids_nodup, ?_, ?_, h.counter_pos, ?_, ?_⟩
  · intro r hr
    obtain ⟨r₀, hr₀, he⟩ := hold r hr
    exact he ▸ h.id_pos r₀ hr₀
  · intro r hr
    obtain ⟨r₀, hr₀, he⟩ := hold r hr
    exact he ▸ h.id_lt r₀ hr₀
  · -- the replaced row takes the new tax id, which no other row holds
    rw [List.map_map]
    refine List.Nodup.map_on ?_ (h.ids_nodup.of_map _)
    intro x hx y hy hxy
    by_cases hxa : x.id = a.id <;> by_cases hya : y.id = a.id <;>
      simp only [Function.comp, hxa, hya, if_true, if_false] at hxy
    · exact List.inj_on_of_nodup_map h.ids_nodup hx hy (hxa.trans hya.symm)
    · exact absurd (hfree y hy hxy.symm) hya
    · exact absurd (hfree x hx hxy) hxa
    · exact List.inj_on_of_nodup_map h.cpfs_nodup hx hy hxy
  · intro r hr
    obtain ⟨r₀, hr₀, rfl⟩ := List.mem_map.1 hr
    by_cases hid : r₀.id = a.id
    · simpa [hid] using hv
    · simpa [hid] using h.cpf_valid r₀ hr₀

/-- A table operation is safe when, on a well-formed table, it leaves a well-formed table
and moves the counter by at most one. -/
def Safe {α : Type} (f : Table → Except StoreFailure (α × Table)) : Prop :=
  ∀ t a t', f t = .ok (a, t') → (t.Wf → t'.Wf) ∧ (t'.nextId = t.nextId ∨ t'.nextId = t.nextId + 1)

theorem safe_insert {a : Account} (hv : Cpf.parse a.cpf.digits = .ok a.cpf) : Safe fun t => t.insert a := by
  intro t id t' hi
  refine ⟨fun h => h.insert hv hi, Or.inr ?_⟩
  obtain ⟨-, he⟩ := insert_eq_ok_iff.1 hi
  have ht : t' = (t.add a).2 := congrArg Prod.snd he
  rw [ht, add_nextId]

theorem safe_save {a : Account} (hv : Cpf.parse a.cpf.digits = .ok a.cpf) :
    Safe fun t => (t.save a).map fun t' => ((), t') := by
  intro t u t' hs
  dsimp only at hs
  rcases hsave : t.save a with e | t₁ <;> rw [hsave] at hs
  · cases hs
  · cases hs
    refine ⟨fun h => h.save hv hsave, Or.inl ?_⟩
    rw [(save_eq_ok_iff.1 hsave).2.2]

/-- An operation that reads the table and keeps it is safe. -/
theorem safe_of_keeps {α : Type} {f : Table → Except StoreFailure (α × Table)}
    (hf : ∀ t a t', f t = .ok (a, t') → t' = t) : Safe f := by
  intro t a t' he
  rw [hf t a t' he]
  exact ⟨id, Or.inl rfl⟩

theorem safe_read {α : Type} (g : Table → Except StoreFailure α) : Safe fun t => (g t).map (·, t) := by
  refine safe_of_keeps fun t a t' he => ?_
  rcases hg : g t with e | b <;> rw [hg] at he <;> cases he
  rfl

end Table

/-! ## Worlds -/

namespace World

variable {w w' w'' : World}

@[simp] theorem table_withTable (w : World) (k : AccountKind) (t : Table) : (w.withTable k t).table k = t := by
  cases k <;> rfl

theorem table_withTable_of_ne (w : World) {k k' : AccountKind} (t : Table) (h : k' ≠ k) :
    (w.withTable k t).table k' = w.table k' := by
  cases k <;> cases k' <;> first | rfl | exact absurd rfl h

/-- Worlds with the same two tables agree on every table. -/
theorem table_eq_of (hc : w'.customers = w.customers) (ha : w'.admins = w.admins) (k : AccountKind) :
    w'.table k = w.table k := by
  cases k
  · exact hc
  · exact ha

/-- Both tables are well formed. -/
def Wf (w : World) : Prop := ∀ k, (w.table k).Wf

/-- The second world's tables hold the rows of the first under the same counters. -/
def SameRows (w w' : World) : Prop :=
  ∀ k, (w'.table k).rows = (w.table k).rows ∧ (w'.table k).nextId = (w.table k).nextId

/-- What any step of a request may do to the tables: keep them well formed, and move each
counter by at most one. -/
structure Guarantee (w w' : World) : Prop where
  wf : w.Wf → w'.Wf
  counter : ∀ k, (w'.table k).nextId = (w.table k).nextId ∨ (w'.table k).nextId = (w.table k).nextId + 1

theorem Wf.withTable {k : AccountKind} {t : Table} (hw : w.Wf) (ht : t.Wf) : (w.withTable k t).Wf := by
  intro k'
  by_cases hk : k' = k
  · subst hk
    rw [table_withTable]
    exact ht
  · rw [table_withTable_of_ne w t hk]
    exact hw k'

theorem SameRows.of_table (h : ∀ k, w'.table k = w.table k) : SameRows w w' := by
  intro k
  rw [h k]
  exact ⟨rfl, rfl⟩

theorem SameRows.refl (w : World) : SameRows w w := fun _ => ⟨rfl, rfl⟩

theorem SameRows.trans (h₁ : SameRows w w') (h₂ : SameRows w' w'') : SameRows w w'' := fun k =>
  ⟨(h₂ k).1.trans (h₁ k).1, (h₂ k).2.trans (h₁ k).2⟩

theorem SameRows.wf (h : SameRows w w') (hw : w.Wf) : w'.Wf := fun k =>
  (hw k).of_rows (h k).1 (h k).2

theorem SameRows.guarantee (h : SameRows w w') : Guarantee w w' :=
  ⟨h.wf, fun k => Or.inl (h k).2⟩

/-- A step that keeps the rows, then one that keeps the guarantee. -/
theorem SameRows.guarantee_of (h₁ : SameRows w w') (h₂ : Guarantee w' w'') : Guarantee w w'' where
  wf hw := h₂.wf (h₁.wf hw)
  counter k := by
    rw [← (h₁ k).2]
    exact h₂.counter k

end World

/-! ## Run equations of the world's steps -/

section Runs

variable (w : World) (ctx : CallContext)

theorem register_run (r : Registration) : (identity.register ctx r).run w =
    ((match w.registerArmed with | some e => .error e | none => .ok ()),
      { w with calls := w.calls ++ [.register ctx r], registerArmed := none }) := by
  rcases w with ⟨_, _, _ | e, _⟩ <;> rfl

theorem register_run_fst (r : Registration) : ((identity.register ctx r).run w).1 =
    match w.registerArmed with
    | some e => .error e
    | none => .ok () := by
  rw [register_run]

theorem authenticate_run_snd (taxId : String) : ((identity.authenticate ctx taxId).run w).2 =
    { w with calls := w.calls ++ [.authenticate ctx taxId], loginArmed := none } := by
  rcases w with ⟨_, _, _, _ | e, _⟩ <;> rfl

theorem authenticateAnonymous_run_snd : ((identity.authenticateAnonymous ctx).run w).2 =
    { w with calls := w.calls ++ [.authenticateAnonymous ctx], loginArmed := none } := by
  rcases w with ⟨_, _, _, _ | e, _⟩ <;> rfl

theorem enter_run (k : AccountKind) (op : TableOp) (c : TableCall) : (enter k op c).run w =
    (((w.table k).take op).1,
      { w with calls := w.calls ++ [Call.table k c] }.withTable k ((w.table k).take op).2) := by
  cases k <;> rfl

theorem commit_run {α : Type} (k : AccountKind) (f : Table → Except StoreFailure (α × Table)) :
    (commit k f).run w =
      match f (w.table k) with
      | .ok (a, t) => (.ok a, w.withTable k t)
      | .error e => (.error e, w) := by
  rcases h : f (w.table k) with e | ⟨a, t⟩ <;> simp [commit, h] <;> rfl

theorem onTable_run {α : Type} (k : AccountKind) (op : TableOp) (c : TableCall)
    (f : Table → Except StoreFailure (α × Table)) :
    (onTable k op c f).run w =
      match (enter k op c).run w with
      | (some e, w') => (.error e, w')
      | (none, w') => (commit k f).run w' := by
  rcases h : (enter k op c).run w with ⟨_ | e, w'⟩ <;> simp [onTable, h] <;> rfl

end Runs

/-! ## What each step does to the tables -/

section Frames

open World

variable (w : World) (ctx : CallContext)

theorem sameRows_register (r : Registration) : SameRows w ((identity.register ctx r).run w).2 := by
  rw [register_run]
  exact SameRows.of_table (table_eq_of rfl rfl)

theorem sameRows_authenticate (taxId : String) : SameRows w ((identity.authenticate ctx taxId).run w).2 := by
  rw [authenticate_run_snd]
  exact SameRows.of_table (table_eq_of rfl rfl)

theorem sameRows_authenticateAnonymous : SameRows w ((identity.authenticateAnonymous ctx).run w).2 := by
  rw [authenticateAnonymous_run_snd]
  exact SameRows.of_table (table_eq_of rfl rfl)

/-- Firing a table's slot takes only the armed failure. -/
theorem sameRows_enter (k : AccountKind) (op : TableOp) (c : TableCall) : SameRows w ((enter k op c).run w).2 := by
  rw [enter_run]
  intro k'
  by_cases hk : k' = k
  · subst hk
    simp
  · rw [table_withTable_of_ne _ _ hk, table_eq_of rfl rfl]
    exact ⟨rfl, rfl⟩

theorem sameRows_logEvent (e : LogEvent) : SameRows w ((logEvent e).run w).2 :=
  SameRows.of_table (table_eq_of rfl rfl)

theorem sameRows_arm (f : Fault) : SameRows w (f.arm.run w).2 := by
  cases f with
  | register e => exact SameRows.of_table (table_eq_of rfl rfl)
  | login e => exact SameRows.of_table (table_eq_of rfl rfl)
  | table k op e =>
    intro k'
    by_cases hk : k' = k
    · subst hk
      show ((w.withTable k' _).table k').rows = _ ∧ ((w.withTable k' _).table k').nextId = _
      simp
    · show ((w.withTable k _).table k').rows = _ ∧ ((w.withTable k _).table k').nextId = _
      rw [table_withTable_of_ne _ _ hk]
      exact ⟨rfl, rfl⟩

variable {w}

/-- **A safe table operation** keeps the guarantee. -/
theorem guarantee_commit {α : Type} {k : AccountKind} {f : Table → Except StoreFailure (α × Table)}
    (hf : Table.Safe f) : Guarantee w ((commit k f).run w).2 := by
  rw [commit_run]
  rcases h : f (w.table k) with e | ⟨a, t⟩
  · exact (SameRows.refl w).guarantee
  · refine ⟨fun hw => ?_, fun k' => ?_⟩
    · exact hw.withTable ((hf _ a t h).1 (hw k))
    · by_cases hk : k' = k
      · subst hk
        rw [table_withTable]
        exact (hf _ a t h).2
      · rw [table_withTable_of_ne _ _ hk]
        exact Or.inl rfl

/-- **A table operation of a service** keeps the guarantee when its operation is safe. -/
theorem guarantee_onTable {α : Type} {k : AccountKind} {op : TableOp} {c : TableCall}
    {f : Table → Except StoreFailure (α × Table)} (hf : Table.Safe f) : Guarantee w ((onTable k op c f).run w).2 := by
  have hs := sameRows_enter w k op c
  rw [onTable_run]
  rcases h : (enter k op c).run w with ⟨_ | e, w'⟩ <;> rw [h] at hs
  · exact hs.guarantee_of (guarantee_commit hf)
  · exact hs.guarantee

end Frames

end AccountRegistry.Memory
