import AccountRegistry.Remote.Database
import AccountRegistry.Proofs.CpfCheck

/-!
# What a standard SQL server does with the store's statements

The store is written against any `DatabaseServer`. What it may rely on is said here, over a
`TableView` of the server's state: whether the server is ready (the schema migrated, and every
statement answered by the server itself, with no deadline passing and no error of its own), the
rows of each table in the order a scan gives them, and the id each table's sequence gives next.

`StandardSql` lists the laws of the store's statements under standard SQL semantics over the
migrated tables, for tax ids `Cpf.parse` gives, which pass the tables' check constraint: an
insert stores its row under the sequence's next id, or is a unique violation when a row holds
the tax id; an update of an id no row has touches nothing, one that would give a row another
row's tax id is a unique violation, and any other overwrites the row in place; a select answers
the matching rows. No statement makes the server unready or moves a sequence back.

The database the program runs against keeps the laws once migrated with nothing planted
(`Database.standardSql`).
-/

set_option autoImplicit false

namespace AccountRegistry.Remote

/-- A database server's state read as the store's tables. -/
structure TableView (σ : Type) where
  /-- The schema is migrated and the server answers every statement itself: no deadline passes
  and no error of its own occurs. -/
  ready : σ → Prop
  /-- The rows of the table of a kind, in the order a scan gives them. -/
  rows : σ → AccountKind → List Row
  /-- The id the sequence of a kind's table gives next. -/
  next : σ → AccountKind → Int

variable {σ : Type}

/-- The store's statements under standard SQL semantics, as a view of the server sees them:
ids from one sequence per table, and a unique constraint on the tax id. -/
structure StandardSql (db : DatabaseServer σ) (v : TableView σ) : Prop where
  /-- No statement makes a ready server unready or moves a sequence back. -/
  steady : ∀ (s : σ) (st : Statement) (k : AccountKind), v.ready s →
    v.ready (db.run s st).2 ∧ v.next s k ≤ v.next (db.run s st).2 k
  /-- An insert of a tax id no row holds stores the row under the sequence's next id, and
  advances the sequence. -/
  insert_fresh : ∀ (s : σ) (k : AccountKind) (name email : String) (c : Cpf), v.ready s →
    Cpf.parse c.digits = .ok c → c.digits ∉ (v.rows s k).map (·.cpf) →
    (db.run s (.insert k name c.digits email)).1 = .ok (.inserted (v.next s k)) ∧
    v.rows (db.run s (.insert k name c.digits email)).2 k =
      v.rows s k ++ [⟨v.next s k, name, c.digits, email⟩] ∧
    v.next s k < v.next (db.run s (.insert k name c.digits email)).2 k
  /-- An insert of a tax id a row holds is a unique violation and stores nothing. -/
  insert_held : ∀ (s : σ) (k : AccountKind) (name email : String) (c : Cpf), v.ready s →
    Cpf.parse c.digits = .ok c → c.digits ∈ (v.rows s k).map (·.cpf) →
    (∃ m, (db.run s (.insert k name c.digits email)).1 = .error (.error uniqueViolation m)) ∧
    v.rows (db.run s (.insert k name c.digits email)).2 k = v.rows s k
  /-- An update of an id no row has touches no row, whatever its tax id. -/
  update_missing : ∀ (s : σ) (k : AccountKind) (id : Int) (name email : String) (c : Cpf), v.ready s →
    Cpf.parse c.digits = .ok c → id ∉ (v.rows s k).map (·.id) →
    (db.run s (.update k id name c.digits email)).1 = .ok (.affected 0) ∧
    v.rows (db.run s (.update k id name c.digits email)).2 k = v.rows s k
  /-- An update that would give its row the tax id of another row is a unique violation and
  changes nothing. -/
  update_held : ∀ (s : σ) (k : AccountKind) (id : Int) (name email : String) (c : Cpf), v.ready s →
    Cpf.parse c.digits = .ok c → id ∈ (v.rows s k).map (·.id) →
    (∃ r ∈ v.rows s k, r.id ≠ id ∧ r.cpf = c.digits) →
    (∃ m, (db.run s (.update k id name c.digits email)).1 = .error (.error uniqueViolation m)) ∧
    v.rows (db.run s (.update k id name c.digits email)).2 k = v.rows s k
  /-- Any other update overwrites the row of its id in place. -/
  update_free : ∀ (s : σ) (k : AccountKind) (id : Int) (name email : String) (c : Cpf), v.ready s →
    Cpf.parse c.digits = .ok c → id ∈ (v.rows s k).map (·.id) →
    (∀ r ∈ v.rows s k, r.cpf = c.digits → r.id = id) →
    (db.run s (.update k id name c.digits email)).1 = .ok (.affected 1) ∧
    v.rows (db.run s (.update k id name c.digits email)).2 k =
      (v.rows s k).map fun r => if r.id = id then ⟨id, name, c.digits, email⟩ else r
  /-- A select by id answers the rows with that id, and changes no row. -/
  select_id : ∀ (s : σ) (k : AccountKind) (id : Int), v.ready s →
    (db.run s (.selectById k id)).1 = .ok (.rows ((v.rows s k).filter (·.id == id))) ∧
    v.rows (db.run s (.selectById k id)).2 k = v.rows s k
  /-- A select by tax id answers the rows holding it, and changes no row. -/
  select_cpf : ∀ (s : σ) (k : AccountKind) (cpf : String), v.ready s →
    (db.run s (.selectByCpf k cpf)).1 = .ok (.rows ((v.rows s k).filter (·.cpf == cpf))) ∧
    v.rows (db.run s (.selectByCpf k cpf)).2 k = v.rows s k

/-! ## The database the program runs against -/

/-- The tax ids `Cpf.parse` gives pass the check constraint of the tables. -/
theorem digitsOk_of_parse {c : Cpf} (hv : Cpf.parse c.digits = .ok c) : digitsOk c.digits = true := by
  obtain ⟨hchk, hd⟩ := Cpf.parse_eq_ok_iff.1 hv
  have hlen : c.digits.length = 11 := by
    rw [hd, ← Cpf.length_values]
    exact (Cpf.check_eq_ok_iff.1 hchk).1
  have hall : ∀ ch ∈ c.digits.toList, ch.isDigit = true := by
    rw [hd]
    exact fun ch hch => Cpf.isDigit_of_mem_normalize hch
  simpa [digitsOk, hlen] using hall

namespace Database

/-- The database's tables and the ids their sequences give next; it is ready once migrated,
with nothing planted. -/
def view : TableView Database where
  ready db := db.migrated = true ∧ db.planted = []
  rows := rows
  next db k := (db.nextval k).1

variable {db : Database}

@[simp] theorem rows_nextval (k k' : AccountKind) : (db.nextval k).2.rows k' = db.rows k' := by
  cases k <;> cases k' <;> rfl

@[simp] theorem rows_withRows (k : AccountKind) (rs : List Row) : (db.withRows k rs).rows k = rs := by
  cases k <;> rfl

@[simp] theorem nextval_withRows (k k' : AccountKind) (rs : List Row) :
    ((db.withRows k rs).nextval k').1 = (db.nextval k').1 := by
  cases k <;> cases k' <;> rfl

/-- Drawing from a sequence moves it on by one and leaves the other sequence alone. -/
theorem nextval_nextval_le (k k' : AccountKind) : (db.nextval k').1 ≤ ((db.nextval k).2.nextval k').1 := by
  cases k <;> cases k' <;> simp [nextval]

theorem nextval_nextval_lt (k : AccountKind) : (db.nextval k).1 < ((db.nextval k).2.nextval k).1 := by
  cases k <;> simp [nextval]

section Ready

variable (h : view.ready db)
include h

theorem ready_nextval (k : AccountKind) : view.ready (db.nextval k).2 := by
  cases k <;> exact h

theorem ready_withRows (k : AccountKind) (rs : List Row) : view.ready (db.withRows k rs) := by
  cases k <;> exact h

/-- A ready database answers every statement itself. -/
theorem run_of_ready (s : Statement) : db.run s = db.execute s := by
  cases s <;> simp [run, takePlanted, Statement.table?, h.1, h.2]

end Ready

/-! ### Each statement on the tables -/

section Execute

variable {k : AccountKind} {name cpf email : String}

theorem execute_insert_fresh (hd : digitsOk cpf = true) (hc : cpf ∉ (db.rows k).map (·.cpf)) :
    db.execute (.insert k name cpf email) = (.ok (.inserted (db.nextval k).1),
      (db.nextval k).2.withRows k (db.rows k ++ [⟨(db.nextval k).1, name, cpf, email⟩])) := by
  simp only [execute, hd, rows_nextval]
  simpa using hc

theorem execute_insert_held (hd : digitsOk cpf = true) (hc : cpf ∈ (db.rows k).map (·.cpf)) :
    db.execute (.insert k name cpf email) = (.error (duplicate k), (db.nextval k).2) := by
  simp only [execute, hd, rows_nextval]
  simpa using hc

variable {id : Int}

theorem execute_update_missing (hm : id ∉ (db.rows k).map (·.id)) :
    db.execute (.update k id name cpf email) = (.ok (.affected 0), db) := by
  simp only [execute]
  rw [if_pos (by simpa using hm)]

theorem execute_update_held (hm : id ∈ (db.rows k).map (·.id)) (hd : digitsOk cpf = true)
    (hc : ∃ r ∈ db.rows k, r.id ≠ id ∧ r.cpf = cpf) :
    db.execute (.update k id name cpf email) = (.error (duplicate k), db) := by
  simp only [execute, hd, Bool.not_true, Bool.false_eq_true, if_false]
  rw [if_neg (by simpa using hm), if_pos (by simpa using hc)]

theorem execute_update_free (hm : id ∈ (db.rows k).map (·.id)) (hd : digitsOk cpf = true)
    (hc : ∀ r ∈ db.rows k, r.cpf = cpf → r.id = id) :
    db.execute (.update k id name cpf email) = (.ok (.affected 1),
      db.withRows k ((db.rows k).map fun r => if r.id = id then ⟨id, name, cpf, email⟩ else r)) := by
  simp only [execute, hd, Bool.not_true, Bool.false_eq_true, if_false]
  rw [if_neg (by simpa using hm), if_neg]
  · simp
  · simp only [Bool.and_eq_true, bne_iff_ne, beq_iff_eq, List.any_eq_true, not_exists, not_and]
    exact fun r hr hne hcpf => hne (hc r hr hcpf)

/-- A statement on a ready database leaves it ready and moves no sequence back: it draws from
one sequence at most, and replaces the rows of one table at most. -/
theorem execute_steady (h : view.ready db) (s : Statement) (k' : AccountKind) :
    view.ready (db.execute s).2 ∧ (db.nextval k').1 ≤ ((db.execute s).2.nextval k').1 := by
  cases s with
  | insert k name cpf email =>
    have hn := ready_nextval h k
    simp only [execute]
    split_ifs
    · exact ⟨hn, nextval_nextval_le k k'⟩
    · exact ⟨hn, nextval_nextval_le k k'⟩
    · exact ⟨ready_withRows hn k _, (nextval_withRows k k' _).symm ▸ nextval_nextval_le k k'⟩
  | update k id name cpf email =>
    simp only [execute]
    split_ifs
    · exact ⟨h, le_refl _⟩
    · exact ⟨h, le_refl _⟩
    · exact ⟨h, le_refl _⟩
    · exact ⟨ready_withRows h k _, (nextval_withRows k k' _).symm ▸ le_refl _⟩
  | selectById | selectByCpf | ping => exact ⟨h, le_refl _⟩

end Execute

/-- The database the program runs against keeps the laws of standard SQL once migrated, with
nothing planted. -/
theorem standardSql : StandardSql server view where
  steady s st k h := by
    show view.ready (s.run st).2 ∧ (s.nextval k).1 ≤ ((s.run st).2.nextval k).1
    rw [run_of_ready h]
    exact execute_steady h st k
  insert_fresh s k name email c h hv hc := by
    show (s.run _).1 = _ ∧ (s.run _).2.rows k = _ ∧ (s.nextval k).1 < ((s.run _).2.nextval k).1
    rw [run_of_ready h, execute_insert_fresh (digitsOk_of_parse hv) hc]
    exact ⟨rfl, rows_withRows k _, (nextval_withRows k k _).symm ▸ nextval_nextval_lt k⟩
  insert_held s k name email c h hv hc := by
    show (∃ m, (s.run _).1 = _) ∧ (s.run _).2.rows k = _
    rw [run_of_ready h, execute_insert_held (digitsOk_of_parse hv) hc]
    exact ⟨⟨_, rfl⟩, rows_nextval k k⟩
  update_missing s k id name email c h _ hm := by
    show (s.run _).1 = _ ∧ (s.run _).2.rows k = _
    rw [run_of_ready h, execute_update_missing hm]
    exact ⟨rfl, rfl⟩
  update_held s k id name email c h hv hm hc := by
    show (∃ m, (s.run _).1 = _) ∧ (s.run _).2.rows k = _
    rw [run_of_ready h, execute_update_held hm (digitsOk_of_parse hv) hc]
    exact ⟨⟨_, rfl⟩, rfl⟩
  update_free s k id name email c h hv hm hc := by
    show (s.run _).1 = _ ∧ (s.run _).2.rows k = _
    rw [run_of_ready h, execute_update_free hm (digitsOk_of_parse hv) hc]
    exact ⟨rfl, rows_withRows k _⟩
  select_id s k id h := by
    show (s.run _).1 = _ ∧ (s.run _).2.rows k = _
    rw [run_of_ready h]
    exact ⟨rfl, rfl⟩
  select_cpf s k cpf h := by
    show (s.run _).1 = _ ∧ (s.run _).2.rows k = _
    rw [run_of_ready h]
    exact ⟨rfl, rfl⟩

end Database

end AccountRegistry.Remote
