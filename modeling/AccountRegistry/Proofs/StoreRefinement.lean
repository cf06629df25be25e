import Mathlib
import AccountRegistry.Remote.World
import AccountRegistry.Remote.Directory
import AccountRegistry.Proofs.StandardSql
import AccountRegistry.Proofs.Tables

/-!
# The database store answers like the in-memory table

The store is run over any database server that keeps the laws of standard SQL
(`StandardSql`), read through a view of its state. While the server is ready, each
operation of the store of a kind sends one statement and its outcome is read off the
table's rows: an insert conflicts exactly when a row holds the tax id (`insert_run_held`,
`insert_run_fresh`), a save is refused as not found before any tax id is looked at, then
as a conflict when another row holds the tax id, and otherwise overwrites the row
(`save_run_missing`, `save_run_held`, `save_run_free`), and a find decodes the first
matching row (`findById_run`, `findByTaxId_run`).

The two stores number their rows differently: the database's sequence may also advance on
a refused insert, the in-memory counter only when a row is added. Rows at the same place of
the two tables are paired (`pairing`); both tables keep their rows in increasing id order,
so the pairing preserves order (`pairing_lt_iff`). `Mirror` is the invariant the two tables
keep under the same calls: they hold the same accounts in the same order. The calls keep it
(`Mirror.insert`, `Mirror.save`, `Mirror.findById`, `Mirror.findByTaxId`), so it holds of
every pair of worlds reached from empty tables (`Mirrored.mirror`), and there every call
answers alike in both stores, up to the pairing.
-/

set_option autoImplicit false

namespace AccountRegistry

/-! ## The database store over a server that keeps the laws -/

namespace Remote

variable {σ δ : Type}

/-- The world after the store sends a statement: the statement recorded, and the server's
state moved on. -/
abbrev World.sent (db : DatabaseServer σ) (w : World σ δ) (st : Statement) : World σ δ :=
  { w with exchanges := w.exchanges ++ [.statement st], database := (db.run w.database st).2 }

/-- The row that stores an account under an id. -/
abbrev rowOf (id : Int) (a : Account) : Row := ⟨id, a.name, a.cpf.digits, a.email⟩

section Query

variable (db : DatabaseServer σ) {w : World σ δ} {s : Statement} {d : σ} (b : Option Nat)

theorem query_run_answer {a : Answer} (h : db.run w.database s = (.ok a, d)) :
    (query db b s).run w = (.ok a, { w with exchanges := w.exchanges ++ [.statement s], database := d }) := by
  simp only [query, send, StateT.run_bind, StateT.run_modify, StateT.run_get, StateT.run_set, pure_bind, h]
  rfl

theorem query_run_refusal {c m : String} (h : db.run w.database s = (.error (.error c m), d)) :
    (query db b s).run w = (.error (.database (.server c m)),
      { w with exchanges := w.exchanges ++ [.statement s], database := d }) := by
  simp only [query, send, StateT.run_bind, StateT.run_modify, StateT.run_get, StateT.run_set, pure_bind, h]
  rfl

/-- An operation that sends a statement the server answers goes on with the answer, from the
world where the statement was sent. -/
theorem query_bind_answer {α : Type} {a : Answer} (f : Except StoreFailure Answer → Step σ δ α)
    (h : (db.run w.database s).1 = .ok a) : (query db b s >>= f).run w = (f (.ok a)).run (w.sent db s) := by
  rw [StateT.run_bind, query_run_answer db b (Prod.ext h rfl)]
  rfl

/-- An operation that sends a statement the server refuses goes on with the refusal as a
database failure. -/
theorem query_bind_refusal {α : Type} {c m : String} (f : Except StoreFailure Answer → Step σ δ α)
    (h : (db.run w.database s).1 = .error (.error c m)) :
    (query db b s >>= f).run w = (f (.error (.database (.server c m)))).run (w.sent db s) := by
  rw [StateT.run_bind, query_run_refusal db b (Prod.ext h rfl)]
  rfl

end Query

section Store

variable {db : DatabaseServer σ} {v : TableView σ} (hdb : StandardSql db v) (k : AccountKind) (ctx : CallContext)
  {w : World σ δ} {a : Account} (h : v.ready w.database)
include hdb h

theorem insert_run_fresh (hv : Cpf.parse a.cpf.digits = .ok a.cpf) (hc : a.cpf.digits ∉ (v.rows w.database k).map (·.cpf)) :
    ((store db k).insert ctx a).run w = (.ok ⟨v.next w.database k⟩, w.sent db (.insert k a.name a.cpf.digits a.email)) := by
  show (query db ctx.budgetMs _ >>= _).run w = _
  rw [query_bind_answer db _ _ (hdb.insert_fresh _ k a.name a.email a.cpf h hv hc).1]
  rfl

/-- A refused insert is a conflict whatever the server's message. -/
theorem insert_run_held (hv : Cpf.parse a.cpf.digits = .ok a.cpf) (hc : a.cpf.digits ∈ (v.rows w.database k).map (·.cpf)) :
    ((store db k).insert ctx a).run w =
      (.error (.conflict "cpf already registered"), w.sent db (.insert k a.name a.cpf.digits a.email)) := by
  obtain ⟨msg, hr⟩ := (hdb.insert_held _ k a.name a.email a.cpf h hv hc).1
  show (query db ctx.budgetMs _ >>= _).run w = _
  rw [query_bind_refusal db _ _ hr]
  rfl

/-- A save of an id no row has is refused before its tax id is looked at. -/
theorem save_run_missing (hv : Cpf.parse a.cpf.digits = .ok a.cpf) (hm : a.id.val ∉ (v.rows w.database k).map (·.id)) :
    ((store db k).save ctx a).run w = (.error .notFound, w.sent db (.update k a.id.val a.name a.cpf.digits a.email)) := by
  show (query db ctx.budgetMs _ >>= _).run w = _
  rw [query_bind_answer db _ _ (hdb.update_missing _ k a.id.val a.name a.email a.cpf h hv hm).1]
  rfl

theorem save_run_held (hv : Cpf.parse a.cpf.digits = .ok a.cpf) (hm : a.id.val ∈ (v.rows w.database k).map (·.id))
    (hc : ∃ r ∈ v.rows w.database k, r.id ≠ a.id.val ∧ r.cpf = a.cpf.digits) :
    ((store db k).save ctx a).run w =
      (.error (.conflict "cpf already registered"), w.sent db (.update k a.id.val a.name a.cpf.digits a.email)) := by
  obtain ⟨msg, hr⟩ := (hdb.update_held _ k a.id.val a.name a.email a.cpf h hv hm hc).1
  show (query db ctx.budgetMs _ >>= _).run w = _
  rw [query_bind_refusal db _ _ hr]
  rfl

theorem save_run_free (hv : Cpf.parse a.cpf.digits = .ok a.cpf) (hm : a.id.val ∈ (v.rows w.database k).map (·.id))
    (hc : ∀ r ∈ v.rows w.database k, r.cpf = a.cpf.digits → r.id = a.id.val) :
    ((store db k).save ctx a).run w = (.ok (), w.sent db (.update k a.id.val a.name a.cpf.digits a.email)) := by
  show (query db ctx.budgetMs _ >>= _).run w = _
  rw [query_bind_answer db _ _ (hdb.update_free _ k a.id.val a.name a.email a.cpf h hv hm hc).1]
  rfl

theorem findById_run (id : AccountId) :
    ((store db k).findById ctx id).run w =
      (firstAccount (.rows ((v.rows w.database k).filter (·.id == id.val))), w.sent db (.selectById k id.val)) := by
  show (query db ctx.budgetMs _ >>= _).run w = _
  rw [query_bind_answer db _ _ (hdb.select_id _ k id.val h).1]
  rfl

theorem findByTaxId_run (c : Cpf) :
    ((store db k).findByTaxId ctx c).run w =
      (firstAccount (.rows ((v.rows w.database k).filter (·.cpf == c.digits))), w.sent db (.selectByCpf k c.digits)) := by
  show (query db ctx.budgetMs _ >>= _).run w = _
  rw [query_bind_answer db _ _ (hdb.select_cpf _ k c.digits h).1]
  rfl

end Store

/-- A row holds an account up to its id: the same name, tax id digits and email, the tax id
being one `Cpf.parse` gives. -/
structure Row.Stores (r : Row) (a : Account) : Prop where
  name : r.name = a.name
  cpf : r.cpf = a.cpf.digits
  email : r.email = a.email
  valid : Cpf.parse a.cpf.digits = .ok a.cpf

/-- A row holding an account decodes to it, under the row's id. -/
theorem Row.Stores.decodeRow {r : Row} {a : Account} (h : r.Stores a) :
    decodeRow r = .ok { a with id := ⟨r.id⟩ } := by
  rw [Remote.decodeRow, h.cpf, h.valid, h.name, h.email]

/-- The first row of an answer that filters a table is the first matching row. -/
theorem firstAccount_filter (rs : List Row) (p : Row → Bool) :
    firstAccount (.rows (rs.filter p)) =
      match rs.find? p with
      | some r => decodeRow r
      | none => .error .notFound := by
  rw [← List.head?_filter]
  cases rs.filter p <;> rfl

/-- A test no row passes finds nothing. -/
theorem firstAccount_filter_of_none (rs : List Row) (p : Row → Bool) (hp : ∀ r ∈ rs, p r = false) :
    firstAccount (.rows (rs.filter p)) = .error .notFound := by
  rw [firstAccount_filter, List.find?_eq_none.2 fun r hr => by simp [hp r hr]]

end Remote

/-! ## The in-memory table with nothing armed -/

namespace Memory

theorem Table.take_of_unarmed {t : Table} (h : t.armed = []) (op : TableOp) : t.take op = (none, t) := by
  simp [Table.take, h]

@[simp] theorem World.table_record (m : World) (cs : List Call) (k : AccountKind) :
    ({ m with calls := cs } : World).table k = m.table k := by
  cases k <;> rfl

section Unarmed

variable {m : World} {k : AccountKind} (ctx : CallContext) (h : (m.table k).armed = [])
include h

/-- With nothing armed, a table operation records its call and runs on the table. -/
theorem onTable_run_unarmed {α : Type} (op : TableOp) (c : TableCall) (f : Table → Except StoreFailure (α × Table)) :
    (onTable k op c f).run m = (commit k f).run { m with calls := m.calls ++ [Call.table k c] } := by
  rw [onTable_run, enter_run, Table.take_of_unarmed h]
  cases k <;> rfl

theorem insert_run_unarmed (a : Account) :
    ((store k).insert ctx a).run m =
      match (m.table k).insert a with
      | .ok (id, t) => (.ok id, { m with calls := m.calls ++ [Call.table k (.insert ctx a)] }.withTable k t)
      | .error e => (.error e, { m with calls := m.calls ++ [Call.table k (.insert ctx a)] }) := by
  show (onTable k .insert (.insert ctx a) fun t => t.insert a).run m = _
  rw [onTable_run_unarmed h, commit_run, World.table_record]
  rcases (m.table k).insert a with e | ⟨id, t⟩ <;> rfl

theorem save_run_unarmed (a : Account) :
    ((store k).save ctx a).run m =
      match (m.table k).save a with
      | .ok t => (.ok (), { m with calls := m.calls ++ [Call.table k (.save ctx a)] }.withTable k t)
      | .error e => (.error e, { m with calls := m.calls ++ [Call.table k (.save ctx a)] }) := by
  show (onTable k .save (.save ctx a) fun t => (t.save a).map fun t' => ((), t')).run m = _
  rw [onTable_run_unarmed h, commit_run, World.table_record]
  cases (m.table k).save a <;> rfl

theorem findById_run_unarmed (id : AccountId) :
    ((store k).findById ctx id).run m =
      ((m.table k).findById id, { m with calls := m.calls ++ [Call.table k (.findById ctx id)] }) := by
  show (onTable k .findById (.findById ctx id) fun t => (t.findById id).map (·, t)).run m = _
  rw [onTable_run_unarmed h, commit_run, World.table_record]
  cases (m.table k).findById id <;> cases k <;> rfl

theorem findByTaxId_run_unarmed (c : Cpf) :
    ((store k).findByTaxId ctx c).run m =
      ((m.table k).findByTaxId c, { m with calls := m.calls ++ [Call.table k (.findByTaxId ctx c)] }) := by
  show (onTable k .findByTaxId (.findByTaxId ctx c) fun t => (t.findByTaxId c).map (·, t)).run m = _
  rw [onTable_run_unarmed h, commit_run, World.table_record]
  cases (m.table k).findByTaxId c <;> cases k <;> rfl

end Unarmed

end Memory

theorem AccountId.eq_iff {i j : AccountId} : i = j ↔ i.val = j.val := by
  cases i
  cases j
  simp

theorem Cpf.eq_iff {c d : Cpf} : c = d ↔ c.digits = d.digits := by
  cases c
  cases d
  simp

/-! ## Lists related place by place -/

section Places

variable {α β : Type} {R : α → β → Prop} {p : α → Bool} {q : β → Bool}

/-- Lists related place by place by a relation under which two tests agree pass the test at
the same places. -/
theorem any_eq_of_forall₂ (hpq : ∀ a b, R a b → p a = q b) :
    ∀ {l₁ : List α} {l₂ : List β}, List.Forall₂ R l₁ l₂ → l₁.any p = l₂.any q
  | _, _, .nil => rfl
  | _, _, .cons hab h => by rw [List.any_cons, List.any_cons, hpq _ _ hab, any_eq_of_forall₂ hpq h]

/-- The first places at which such lists pass the tests are the same place. -/
theorem find?_of_forall₂ (hpq : ∀ a b, R a b → p a = q b) :
    ∀ {l₁ : List α} {l₂ : List β}, List.Forall₂ R l₁ l₂ →
      (l₁.find? p = none ∧ l₂.find? q = none) ∨ ∃ a b, l₁.find? p = some a ∧ l₂.find? q = some b ∧ R a b
  | _, _, .nil => .inl ⟨rfl, rfl⟩
  | a :: _, b :: _, .cons hab h => by
    rw [List.find?_cons, List.find?_cons, hpq _ _ hab]
    cases q b
    · exact find?_of_forall₂ hpq h
    · exact .inr ⟨a, b, rfl, rfl, hab⟩

theorem mem_zip_iff_getElem {xs : List α} {ys : List β} {x : α} {y : β} :
    (x, y) ∈ xs.zip ys ↔ ∃ i, ∃ (hx : i < xs.length) (hy : i < ys.length), xs[i] = x ∧ ys[i] = y := by
  simp only [List.mem_iff_getElem, List.length_zip, List.getElem_zip, Prod.mk.injEq]
  constructor
  · rintro ⟨i, hi, hx, hy⟩
    exact ⟨i, by omega, by omega, hx, hy⟩
  · rintro ⟨i, hx, hy, h₁, h₂⟩
    exact ⟨i, by omega, h₁, h₂⟩

variable {xs ys : List Int} (hx : xs.SortedLT) (hy : ys.SortedLT)
include hx hy

/-- Zipping two increasing lists pairs their elements in the same order. -/
theorem zip_lt_iff {x y x' y' : Int} (h : (x, y) ∈ xs.zip ys) (h' : (x', y') ∈ xs.zip ys) :
    x < x' ↔ y < y' := by
  obtain ⟨i, hi, hj, rfl, rfl⟩ := mem_zip_iff_getElem.1 h
  obtain ⟨j, hi', hj', rfl, rfl⟩ := mem_zip_iff_getElem.1 h'
  rw [hx.getElem_lt_getElem_iff, hy.getElem_lt_getElem_iff]

/-- Zipping two increasing lists is one to one. -/
theorem zip_eq_iff {x y x' y' : Int} (h : (x, y) ∈ xs.zip ys) (h' : (x', y') ∈ xs.zip ys) :
    x = x' ↔ y = y' := by
  obtain ⟨i, hi, hj, rfl, rfl⟩ := mem_zip_iff_getElem.1 h
  obtain ⟨j, hi', hj', rfl, rfl⟩ := mem_zip_iff_getElem.1 h'
  rw [hx.nodup.getElem_inj_iff, hy.nodup.getElem_inj_iff]

end Places

theorem sortedLT_append_singleton {xs : List Int} {x : Int} (h : xs.SortedLT) (hx : ∀ y ∈ xs, y < x) :
    (xs ++ [x]).SortedLT := by
  rw [List.sortedLT_iff_pairwise, List.pairwise_append] at *
  exact ⟨h, List.pairwise_singleton _ _, fun y hy z hz => (List.mem_singleton.1 hz) ▸ hx y hy⟩

/-- An overwrite keeps the ids of a table in place. -/
theorem ids_overwrite {α : Type} (l : List α) (id : α → Int) (p : Int) (y : α) (hy : id y = p) :
    (l.map fun x => if id x = p then y else x).map id = l.map id := by
  rw [List.map_map]
  refine List.map_congr_left fun x _ => ?_
  by_cases hx : id x = p
  · simp [hx, hy]
  · simp [hx]

/-! ## Pairing the ids of the two tables -/

/-- The ids of the rows at the same place of the database table and the in-memory table. -/
def pairing (rows : List Remote.Row) (accts : List Account) : List (Int × Int) :=
  (rows.map (·.id)).zip (accts.map (·.id.val))

/-- Ids a call may name in the two stores: paired, or held by neither table. -/
def Paired (rows : List Remote.Row) (accts : List Account) (p f : Int) : Prop :=
  (p, f) ∈ pairing rows accts ∨ (p ∉ rows.map (·.id) ∧ f ∉ accts.map (·.id.val))

theorem pairing_append {rows : List Remote.Row} {accts : List Account} (hl : rows.length = accts.length)
    (r : Remote.Row) (b : Account) : pairing (rows ++ [r]) (accts ++ [b]) = pairing rows accts ++ [(r.id, b.id.val)] := by
  simp only [pairing, List.map_append, List.map_cons, List.map_nil]
  rw [List.zip_append (by simpa using hl)]
  rfl

/-- The answers of the two stores to one call agree: the same failure, or values `same`
relates. -/
inductive Agree {α β : Type} (same : α → β → Prop) : Except StoreFailure α → Except StoreFailure β → Prop
  | error (e : StoreFailure) : Agree same (.error e) (.error e)
  | ok {x : α} {y : β} : same x y → Agree same (.ok x) (.ok y)

/-- Accounts read from the two stores are the same account: their ids are paired and they
agree elsewhere. -/
def SameAccount (π : List (Int × Int)) (x y : Account) : Prop :=
  (x.id.val, y.id.val) ∈ π ∧ { x with id := y.id } = y

/-! ## The invariant -/

section Invariant

variable {σ δ : Type}

/-- What the database store and the in-memory store of kind `k` keep under the same calls:
the server is ready and nothing is armed in the in-memory table; the tables hold the same
accounts in the same order; each keeps its ids increasing and below the next id it gives. -/
structure Mirror (v : Remote.TableView σ) (k : AccountKind) (w : Remote.World σ δ) (m : Memory.World) : Prop where
  ready : v.ready w.database
  unarmed : (m.table k).armed = []
  stores : List.Forall₂ Remote.Row.Stores (v.rows w.database k) (m.table k).rows
  remote_sorted : ((v.rows w.database k).map (·.id)).SortedLT
  memory_sorted : ((m.table k).rows.map (·.id.val)).SortedLT
  remote_below : ∀ r ∈ v.rows w.database k, r.id < v.next w.database k
  memory_below : ∀ b ∈ (m.table k).rows, b.id.val < (m.table k).nextId

namespace Mirror

variable {v : Remote.TableView σ} {k : AccountKind} {w : Remote.World σ δ} {m : Memory.World} (h : Mirror v k w m)
include h

/-- The pairing preserves order. -/
theorem pairing_lt_iff {x y : Int × Int} (hx : x ∈ pairing (v.rows w.database k) (m.table k).rows)
    (hy : y ∈ pairing (v.rows w.database k) (m.table k).rows) : x.1 < y.1 ↔ x.2 < y.2 :=
  zip_lt_iff h.remote_sorted h.memory_sorted hx hy

/-- Rows at the same place hold the same account and have paired ids. -/
theorem placed : List.Forall₂ (fun r b => r.Stores b ∧ (r.id, b.id.val) ∈ pairing (v.rows w.database k) (m.table k).rows)
    (v.rows w.database k) (m.table k).rows := by
  rw [List.forall₂_iff_zip]
  refine ⟨h.stores.length_eq, fun hrb => ⟨List.forall₂_zip h.stores hrb, ?_⟩⟩
  rw [pairing, List.zip_map]
  exact List.mem_map_of_mem hrb

/-- A row named by paired ids is named in both tables or in neither. -/
theorem id_iff {p f : Int} (hp : Paired (v.rows w.database k) (m.table k).rows p f) {r : Remote.Row} {b : Account}
    (hrb : (r.id, b.id.val) ∈ pairing (v.rows w.database k) (m.table k).rows) : r.id = p ↔ b.id.val = f := by
  rcases hp with hp | ⟨hp, hf⟩
  · exact zip_eq_iff h.remote_sorted h.memory_sorted hrb hp
  · obtain ⟨hr, hb⟩ := List.of_mem_zip hrb
    exact ⟨fun he => absurd (he ▸ hr) hp, fun he => absurd (he ▸ hb) hf⟩

/-- Every row of the database table holds an account of the in-memory table. -/
theorem stored {r : Remote.Row} (hr : r ∈ v.rows w.database k) : ∃ b ∈ (m.table k).rows, r.Stores b := by
  obtain ⟨i, hi, rfl⟩ := List.mem_iff_getElem.1 hr
  have hl := h.stores.length_eq
  exact ⟨_, List.getElem_mem (hl ▸ hi), List.forall₂_zip h.stores
    (mem_zip_iff_getElem.2 ⟨i, hi, hl ▸ hi, rfl, rfl⟩)⟩

/-- A test some row passes finds the account of the first such row. -/
theorem firstAccount_of_mem (P : Remote.Row → Bool) {r : Remote.Row} (hr : r ∈ v.rows w.database k) (hP : P r = true) :
    ∃ r₀ b, P r₀ = true ∧ r₀.Stores b ∧
      Remote.firstAccount (.rows ((v.rows w.database k).filter P)) = .ok { b with id := ⟨r₀.id⟩ } := by
  obtain ⟨r₀, hr₀⟩ := Option.isSome_iff_exists.1 (List.find?_isSome.2 ⟨r, hr, hP⟩)
  obtain ⟨b, -, hs⟩ := h.stored (List.mem_of_find?_eq_some hr₀)
  refine ⟨r₀, b, List.find?_some hr₀, hs, ?_⟩
  rw [Remote.firstAccount_filter, hr₀]
  exact hs.decodeRow

/-- The invariant looks at the table of kind `k` of each world, and at the sequence only
through the bound it gives. -/
theorem congr {w' : Remote.World σ δ} {m' : Memory.World} (hrows : v.rows w'.database k = v.rows w.database k)
    (hready : v.ready w'.database) (hnext : v.next w.database k ≤ v.next w'.database k)
    (ht : m'.table k = m.table k) : Mirror v k w' m' where
  ready := hready
  unarmed := by rw [ht]; exact h.unarmed
  stores := by rw [hrows, ht]; exact h.stores
  remote_sorted := by rw [hrows]; exact h.remote_sorted
  memory_sorted := by rw [ht]; exact h.memory_sorted
  remote_below r hr := lt_of_lt_of_le (h.remote_below r (hrows ▸ hr)) hnext
  memory_below b hb := by rw [ht] at hb ⊢; exact h.memory_below b hb

/-- A statement that changes no row of the table keeps the invariant while the in-memory
table stays as it is: by the laws, the server stays ready and its sequence only moves on. -/
theorem sent {db : Remote.DatabaseServer σ} (hdb : Remote.StandardSql db v) {st : Remote.Statement}
    (hrows : v.rows (db.run w.database st).2 k = v.rows w.database k) {m' : Memory.World}
    (ht : m'.table k = m.table k) : Mirror v k (w.sent db st) m' :=
  have hs := hdb.steady w.database st k h.ready
  h.congr hrows hs.1 hs.2 ht

/-- Both tables adding an account keeps the invariant: the database's row goes under an id
its sequence has since passed. -/
theorem add {a : Account} (hv : Cpf.parse a.cpf.digits = .ok a.cpf) {w' : Remote.World σ δ} {m' : Memory.World}
    (hready : v.ready w'.database)
    (hrows : v.rows w'.database k = v.rows w.database k ++ [Remote.rowOf (v.next w.database k) a])
    (hnext : v.next w.database k < v.next w'.database k)
    (ht : m'.table k = ((m.table k).add a).2) : Mirror v k w' m' where
  ready := hready
  unarmed := by rw [ht, Memory.Table.add_armed]; exact h.unarmed
  stores := by
    rw [hrows, ht, Memory.Table.add_rows]
    exact List.rel_append h.stores (.cons ⟨rfl, rfl, rfl, hv⟩ .nil)
  remote_sorted := by
    rw [hrows, List.map_append]
    refine sortedLT_append_singleton h.remote_sorted fun y hy => ?_
    obtain ⟨r, hr, rfl⟩ := List.mem_map.1 hy
    exact h.remote_below r hr
  memory_sorted := by
    rw [ht, Memory.Table.add_rows, List.map_append]
    refine sortedLT_append_singleton h.memory_sorted fun y hy => ?_
    obtain ⟨b, hb, rfl⟩ := List.mem_map.1 hy
    exact h.memory_below b hb
  remote_below r hr := by
    rw [hrows, List.mem_append, List.mem_singleton] at hr
    rcases hr with hr | rfl
    · exact lt_trans (h.remote_below r hr) hnext
    · exact hnext
  memory_below b hb := by
    rw [ht, Memory.Table.add_rows, List.mem_append, List.mem_singleton] at hb
    rw [ht, Memory.Table.add_nextId]
    rcases hb with hb | rfl
    · exact lt_trans (h.memory_below b hb) (Int.lt_add_one_iff.2 le_rfl)
    · exact Int.lt_add_one_iff.2 le_rfl

/-- Both tables overwriting the row of paired ids keeps the invariant. -/
theorem overwrite {a : Account} (hv : Cpf.parse a.cpf.digits = .ok a.cpf) {f : AccountId}
    (hp : Paired (v.rows w.database k) (m.table k).rows a.id.val f.val) {w' : Remote.World σ δ} {m' : Memory.World}
    (hready : v.ready w'.database) (hnext : v.next w.database k ≤ v.next w'.database k)
    (hrows : v.rows w'.database k =
      (v.rows w.database k).map fun r => if r.id = a.id.val then Remote.rowOf a.id.val a else r)
    (ht : m'.table k = { m.table k with rows := (m.table k).rows.map fun b => if b.id.val = f.val then { a with id := f } else b }) :
    Mirror v k w' m' := by
  have hr : (v.rows w'.database k).map (·.id) = (v.rows w.database k).map (·.id) := by
    rw [hrows]
    exact ids_overwrite _ (fun r : Remote.Row => r.id) _ _ rfl
  have hb : ((m'.table k).rows).map (·.id.val) = (m.table k).rows.map (·.id.val) := by
    rw [ht]
    exact ids_overwrite _ (fun b : Account => b.id.val) _ _ rfl
  refine ⟨hready, by rw [ht]; exact h.unarmed, ?_, hr ▸ h.remote_sorted, hb ▸ h.memory_sorted, ?_, ?_⟩
  · rw [hrows, ht, List.forall₂_map_left_iff, List.forall₂_map_right_iff]
    refine h.placed.imp fun r b ⟨hs, hrb⟩ => ?_
    by_cases hid : r.id = a.id.val
    · simp only [hid, (h.id_iff hp hrb).1 hid, if_true]
      exact ⟨rfl, rfl, rfl, hv⟩
    · simp only [hid, mt (h.id_iff hp hrb).2 hid, if_false]
      exact hs
  · intro r hr'
    have hmem : r.id ∈ (v.rows w.database k).map (·.id) := hr ▸ List.mem_map_of_mem hr'
    obtain ⟨r₀, hr₀, he⟩ := List.mem_map.1 hmem
    rw [← he]
    exact lt_of_lt_of_le (h.remote_below r₀ hr₀) hnext
  · intro b hb'
    have hmem : b.id.val ∈ (m.table k).rows.map (·.id.val) := hb ▸ List.mem_map_of_mem hb'
    obtain ⟨b₀, hb₀, he⟩ := List.mem_map.1 hmem
    rw [ht, ← he]
    exact h.memory_below b₀ hb₀

/-! ### One call to both stores -/

variable {db : Remote.DatabaseServer σ} (hdb : Remote.StandardSql db v)
include hdb

/-- An insert of a parsed tax id answers alike in both stores, the ids it gives being paired
afterwards, and keeps the invariant. -/
theorem insert (ctx : CallContext) {a : Account} (hv : Cpf.parse a.cpf.digits = .ok a.cpf) :
    Agree (fun p f => (p.val, f.val) ∈ pairing (v.rows (((Remote.store db k).insert ctx a).run w).2.database k)
        ((((Memory.store k).insert ctx a).run m).2.table k).rows)
      (((Remote.store db k).insert ctx a).run w).1 (((Memory.store k).insert ctx a).run m).1 ∧
    Mirror v k (((Remote.store db k).insert ctx a).run w).2 (((Memory.store k).insert ctx a).run m).2 := by
  have hany : (v.rows w.database k).any (·.cpf == a.cpf.digits) = (m.table k).rows.any (·.cpf == a.cpf) :=
    any_eq_of_forall₂ (fun r b hrb => by rw [hrb.cpf, Bool.eq_iff_iff, beq_iff_eq, beq_iff_eq, Cpf.eq_iff]) h.stores
  by_cases hc : a.cpf.digits ∈ (v.rows w.database k).map (·.cpf)
  · -- the tax id is held: both refuse, and only the sequence may move
    have hins : (m.table k).insert a = .error Memory.Table.taken := by
      rw [Memory.Table.insert, if_pos (by rw [← hany]; simpa using hc)]
    rw [Remote.insert_run_held hdb k ctx h.ready hv hc, Memory.insert_run_unarmed ctx h.unarmed, hins]
    exact ⟨.error _, h.sent hdb (hdb.insert_held _ k _ _ _ h.ready hv hc).2 (Memory.World.table_record _ _ _)⟩
  · -- the tax id is new: both add the row, under ids the pairing then pairs
    have hins : (m.table k).insert a = .ok ((m.table k).add a) := by
      rw [Memory.Table.insert, if_neg (by rw [← hany]; simpa using hc)]
    have hrun : ((Memory.store k).insert ctx a).run m = (.ok ⟨(m.table k).nextId⟩,
        { m with calls := m.calls ++ [Memory.Call.table k (.insert ctx a)] }.withTable k ((m.table k).add a).2) := by
      rw [Memory.insert_run_unarmed ctx h.unarmed, hins]
      rfl
    have hfresh := hdb.insert_fresh _ k a.name a.email a.cpf h.ready hv hc
    have hready := (hdb.steady w.database (.insert k a.name a.cpf.digits a.email) k h.ready).1
    rw [Remote.insert_run_fresh hdb k ctx h.ready hv hc, hrun]
    refine ⟨.ok ?_, h.add hv hready hfresh.2.1 hfresh.2.2 (Memory.World.table_withTable _ _ _)⟩
    rw [Remote.World.sent, hfresh.2.1, Memory.World.table_withTable, Memory.Table.add_rows,
      pairing_append h.stores.length_eq]
    exact List.mem_append_right _ (List.mem_singleton.2 rfl)

/-- A save of paired ids answers alike in both stores and keeps the invariant. -/
theorem save (ctx : CallContext) {a : Account} (f : AccountId) (hv : Cpf.parse a.cpf.digits = .ok a.cpf)
    (hp : Paired (v.rows w.database k) (m.table k).rows a.id.val f.val) :
    (((Remote.store db k).save ctx a).run w).1 = (((Memory.store k).save ctx { a with id := f }).run m).1 ∧
    Mirror v k (((Remote.store db k).save ctx a).run w).2 (((Memory.store k).save ctx { a with id := f }).run m).2 := by
  -- both tables test the same rows: the paired id names the row at the same place
  have hid : (v.rows w.database k).any (·.id == a.id.val) = (m.table k).rows.any (·.id == f) :=
    any_eq_of_forall₂ (fun r b hrb => by
      rw [Bool.eq_iff_iff, beq_iff_eq, beq_iff_eq, AccountId.eq_iff]
      exact h.id_iff hp hrb.2) h.placed
  have hother : (v.rows w.database k).any (fun r => r.id != a.id.val && r.cpf == a.cpf.digits) =
      (m.table k).rows.any (fun b => b.id != f && b.cpf == a.cpf) :=
    any_eq_of_forall₂ (fun r b hrb => by
      rw [Bool.eq_iff_iff]
      simp only [Bool.and_eq_true, bne_iff_ne, beq_iff_eq, ne_eq, AccountId.eq_iff, Cpf.eq_iff, hrb.1.cpf,
        h.id_iff hp hrb.2]) h.placed
  by_cases hm : a.id.val ∈ (v.rows w.database k).map (·.id)
  · have hm' : (m.table k).rows.any (·.id == f) = true := by rw [← hid]; simpa using hm
    by_cases hc : ∃ r ∈ v.rows w.database k, r.id ≠ a.id.val ∧ r.cpf = a.cpf.digits
    · -- another row holds the tax id: both refuse
      have hc' : (m.table k).rows.any (fun b => b.id != f && b.cpf == a.cpf) = true := by
        rw [← hother]; simpa using hc
      have hsave : (m.table k).save { a with id := f } = .error Memory.Table.taken := by
        simp only [Memory.Table.save, hm', hc', Bool.not_true, Bool.false_eq_true, if_false, if_true]
      rw [Remote.save_run_held hdb k ctx h.ready hv hm hc, Memory.save_run_unarmed ctx h.unarmed, hsave]
      exact ⟨rfl, h.sent hdb (hdb.update_held _ k _ _ _ _ h.ready hv hm hc).2 (Memory.World.table_record _ _ _)⟩
    · -- the row is overwritten in both tables
      have hfree : ∀ r ∈ v.rows w.database k, r.cpf = a.cpf.digits → r.id = a.id.val := by
        intro r hr hcpf
        by_contra hne
        exact hc ⟨r, hr, hne, hcpf⟩
      have hc' : (m.table k).rows.any (fun b => b.id != f && b.cpf == a.cpf) = false := by
        rw [← hother, List.any_eq_false]
        intro r hr
        simp only [Bool.and_eq_true, bne_iff_ne, beq_iff_eq, not_and]
        exact fun hne hcpf => hne (hfree r hr hcpf)
      have hsave : (m.table k).save { a with id := f } =
          .ok { m.table k with rows := (m.table k).rows.map fun b => if b.id.val = f.val then { a with id := f } else b } := by
        simp only [Memory.Table.save, hm', hc', Bool.not_true, Bool.false_eq_true, if_false, beq_iff_eq,
          AccountId.eq_iff]
      have hsteady := hdb.steady w.database (.update k a.id.val a.name a.cpf.digits a.email) k h.ready
      rw [Remote.save_run_free hdb k ctx h.ready hv hm hfree, Memory.save_run_unarmed ctx h.unarmed, hsave]
      exact ⟨rfl, h.overwrite hv hp hsteady.1 hsteady.2 (hdb.update_free _ k _ _ _ _ h.ready hv hm hfree).2
        (Memory.World.table_withTable _ _ _)⟩
  · -- no row has the id: both refuse before looking at the tax id
    have hm' : (m.table k).rows.any (·.id == f) = false := by rw [← hid]; simpa using hm
    have hsave : (m.table k).save { a with id := f } = .error .notFound := by
      simp only [Memory.Table.save, hm', Bool.not_false, if_true]
    rw [Remote.save_run_missing hdb k ctx h.ready hv hm, Memory.save_run_unarmed ctx h.unarmed, hsave]
    exact ⟨rfl, h.sent hdb (hdb.update_missing _ k _ _ _ _ h.ready hv hm).2 (Memory.World.table_record _ _ _)⟩

/-- A find by paired ids answers with the same account in both stores, or with the same
failure, and keeps the invariant. -/
theorem findById (ctx : CallContext) (p f : AccountId) (hp : Paired (v.rows w.database k) (m.table k).rows p.val f.val) :
    Agree (SameAccount (pairing (v.rows w.database k) (m.table k).rows))
      (((Remote.store db k).findById ctx p).run w).1 (((Memory.store k).findById ctx f).run m).1 ∧
    Mirror v k (((Remote.store db k).findById ctx p).run w).2 (((Memory.store k).findById ctx f).run m).2 := by
  rw [Remote.findById_run hdb k ctx h.ready, Memory.findById_run_unarmed ctx h.unarmed]
  refine ⟨?_, h.sent hdb (hdb.select_id _ k _ h.ready).2 (Memory.World.table_record _ _ _)⟩
  rw [Remote.firstAccount_filter]
  simp only [Memory.Table.findById]
  rcases find?_of_forall₂ (p := (·.id == p.val)) (q := (·.id == f)) (fun r b hrb => by
      rw [Bool.eq_iff_iff, beq_iff_eq, beq_iff_eq, AccountId.eq_iff]
      exact h.id_iff hp hrb.2) h.placed with ⟨h₁, h₂⟩ | ⟨r, b, h₁, h₂, hs, hrb⟩
  · rw [h₁, h₂]
    exact .error _
  · simp only [h₁, h₂, hs.decodeRow]
    exact .ok ⟨hrb, rfl⟩

/-- A find by tax id answers with the same account in both stores, or with the same
failure, and keeps the invariant. -/
theorem findByTaxId (ctx : CallContext) (c : Cpf) :
    Agree (SameAccount (pairing (v.rows w.database k) (m.table k).rows))
      (((Remote.store db k).findByTaxId ctx c).run w).1 (((Memory.store k).findByTaxId ctx c).run m).1 ∧
    Mirror v k (((Remote.store db k).findByTaxId ctx c).run w).2 (((Memory.store k).findByTaxId ctx c).run m).2 := by
  rw [Remote.findByTaxId_run hdb k ctx h.ready, Memory.findByTaxId_run_unarmed ctx h.unarmed]
  refine ⟨?_, h.sent hdb (hdb.select_cpf _ k _ h.ready).2 (Memory.World.table_record _ _ _)⟩
  rw [Remote.firstAccount_filter]
  simp only [Memory.Table.findByTaxId]
  rcases find?_of_forall₂ (p := (·.cpf == c.digits)) (q := (·.cpf == c)) (fun r b hrb => by
      rw [Bool.eq_iff_iff, beq_iff_eq, beq_iff_eq, Cpf.eq_iff, hrb.1.cpf]) h.placed with
    ⟨h₁, h₂⟩ | ⟨r, b, h₁, h₂, hs, hrb⟩
  · rw [h₁, h₂]
    exact .error _
  · simp only [h₁, h₂, hs.decodeRow]
    exact .ok ⟨hrb, rfl⟩

/-- A find by id is not found exactly when no row has the id, and otherwise gives the
account of that row. -/
theorem findById_outcome (ctx : CallContext) (p : AccountId) :
    (p.val ∉ (v.rows w.database k).map (·.id) → (((Remote.store db k).findById ctx p).run w).1 = .error .notFound) ∧
    (p.val ∈ (v.rows w.database k).map (·.id) →
      ∃ x, (((Remote.store db k).findById ctx p).run w).1 = .ok x ∧ x.id = p) := by
  rw [Remote.findById_run hdb k ctx h.ready]
  refine ⟨fun hp => Remote.firstAccount_filter_of_none _ _ fun r hr => ?_, fun hp => ?_⟩
  · simpa using fun he => hp (List.mem_map.2 ⟨r, hr, he⟩)
  · obtain ⟨r, hr, he⟩ := List.mem_map.1 hp
    obtain ⟨r₀, b, hP, -, he₀⟩ := h.firstAccount_of_mem (·.id == p.val) hr (by simpa using he)
    exact ⟨_, he₀, AccountId.eq_iff.2 (by simpa using hP)⟩

/-- A find by tax id is not found exactly when no row holds it, and otherwise gives an account
holding it. -/
theorem findByTaxId_outcome (ctx : CallContext) (c : Cpf) :
    (c.digits ∉ (v.rows w.database k).map (·.cpf) →
      (((Remote.store db k).findByTaxId ctx c).run w).1 = .error .notFound) ∧
    (c.digits ∈ (v.rows w.database k).map (·.cpf) →
      ∃ x, (((Remote.store db k).findByTaxId ctx c).run w).1 = .ok x ∧ x.cpf = c) := by
  rw [Remote.findByTaxId_run hdb k ctx h.ready]
  refine ⟨fun hc => Remote.firstAccount_filter_of_none _ _ fun r hr => ?_, fun hc => ?_⟩
  · simpa using fun he => hc (List.mem_map.2 ⟨r, hr, he⟩)
  · obtain ⟨r, hr, he⟩ := List.mem_map.1 hc
    obtain ⟨r₀, b, hP, hs, he₀⟩ := h.firstAccount_of_mem (·.cpf == c.digits) hr (by simpa using he)
    refine ⟨_, he₀, Cpf.eq_iff.2 ?_⟩
    rw [← hs.cpf]
    simpa using hP

end Mirror

/-- Empty tables, over a ready server and with nothing armed, satisfy the invariant. -/
theorem Mirror.start {v : Remote.TableView σ} {k : AccountKind} {w : Remote.World σ δ} {m : Memory.World}
    (hr : v.ready w.database) (hw : v.rows w.database k = []) (hm : (m.table k).rows = [])
    (ha : (m.table k).armed = []) : Mirror v k w m where
  ready := hr
  unarmed := ha
  stores := by rw [hw, hm]; exact .nil
  remote_sorted := by rw [hw, List.map_nil, List.sortedLT_iff_pairwise]; exact .nil
  memory_sorted := by rw [hm, List.map_nil, List.sortedLT_iff_pairwise]; exact .nil
  remote_below r hr' := absurd (hw ▸ hr') List.not_mem_nil
  memory_below b hb := absurd (hm ▸ hb) List.not_mem_nil

end Invariant

/-! ## Runs from empty tables -/

section Runs

variable {σ δ : Type}

/-- The pairs of worlds the database store over a server `db` and the in-memory store of kind
`k` reach from empty tables, over a ready server and with nothing armed, by making the same
calls to both: inserts and saves of parsed tax ids, finds by tax id, and saves and finds that
name paired ids or ids neither table holds. -/
inductive Mirrored (db : Remote.DatabaseServer σ) (v : Remote.TableView σ) (k : AccountKind) :
    Remote.World σ δ → Memory.World → Prop
  | start {w : Remote.World σ δ} {m : Memory.World} : v.ready w.database → v.rows w.database k = [] →
      (m.table k).rows = [] → (m.table k).armed = [] → Mirrored db v k w m
  | insert {w : Remote.World σ δ} {m : Memory.World} (ctx : CallContext) {a : Account} : Mirrored db v k w m →
      Cpf.parse a.cpf.digits = .ok a.cpf →
      Mirrored db v k (((Remote.store db k).insert ctx a).run w).2 (((Memory.store k).insert ctx a).run m).2
  | save {w : Remote.World σ δ} {m : Memory.World} (ctx : CallContext) {a : Account} (f : AccountId) :
      Mirrored db v k w m → Cpf.parse a.cpf.digits = .ok a.cpf →
      Paired (v.rows w.database k) (m.table k).rows a.id.val f.val →
      Mirrored db v k (((Remote.store db k).save ctx a).run w).2 (((Memory.store k).save ctx { a with id := f }).run m).2
  | findById {w : Remote.World σ δ} {m : Memory.World} (ctx : CallContext) (p f : AccountId) : Mirrored db v k w m →
      Paired (v.rows w.database k) (m.table k).rows p.val f.val →
      Mirrored db v k (((Remote.store db k).findById ctx p).run w).2 (((Memory.store k).findById ctx f).run m).2
  | findByTaxId {w : Remote.World σ δ} {m : Memory.World} (ctx : CallContext) (c : Cpf) : Mirrored db v k w m →
      Mirrored db v k (((Remote.store db k).findByTaxId ctx c).run w).2 (((Memory.store k).findByTaxId ctx c).run m).2

/-- Every pair of worlds reached from empty tables keeps the invariant: by induction on the
calls, each keeping it. -/
theorem Mirrored.mirror {db : Remote.DatabaseServer σ} {v : Remote.TableView σ} (hdb : Remote.StandardSql db v)
    {k : AccountKind} {w : Remote.World σ δ} {m : Memory.World} (h : Mirrored db v k w m) : Mirror v k w m := by
  induction h with
  | start hr hw hm ha => exact Mirror.start hr hw hm ha
  | insert ctx _ hv ih => exact (ih.insert hdb ctx hv).2
  | save ctx f _ hv hp ih => exact (ih.save hdb ctx f hv hp).2
  | findById ctx p f _ hp ih => exact (ih.findById hdb ctx p f hp).2
  | findByTaxId ctx c _ ih => exact (ih.findByTaxId hdb ctx c).2

/-- **The database store answers like the in-memory table over a server keeping the laws of
standard SQL**, at every step of the same calls from empty tables, ids read through the pairing. -/
theorem remote_store_answers_like_memory_store {db : Remote.DatabaseServer σ} {v : Remote.TableView σ}
    (hdb : Remote.StandardSql db v) {k : AccountKind} {w : Remote.World σ δ} {m : Memory.World}
    (h : Mirrored db v k w m) :
    let rows := v.rows w.database k
    let accts := (m.table k).rows
    (∀ x ∈ pairing rows accts, ∀ y ∈ pairing rows accts, x.1 < y.1 ↔ x.2 < y.2) ∧
    (∀ (ctx : CallContext) (a : Account), Cpf.parse a.cpf.digits = .ok a.cpf →
      let r := ((Remote.store db k).insert ctx a).run w
      let s := ((Memory.store k).insert ctx a).run m
      Agree (fun p f => (p.val, f.val) ∈ pairing (v.rows r.2.database k) (s.2.table k).rows) r.1 s.1 ∧
      (a.cpf.digits ∈ rows.map (·.cpf) → r.1 = .error (.conflict "cpf already registered")) ∧
      (a.cpf.digits ∉ rows.map (·.cpf) → r.1 = .ok ⟨v.next w.database k⟩)) ∧
    (∀ (ctx : CallContext) (a : Account) (f : AccountId), Cpf.parse a.cpf.digits = .ok a.cpf →
      Paired rows accts a.id.val f.val →
      let r := ((Remote.store db k).save ctx a).run w
      let s := ((Memory.store k).save ctx { a with id := f }).run m
      r.1 = s.1 ∧
      (a.id.val ∉ rows.map (·.id) → r.1 = .error .notFound) ∧
      (a.id.val ∈ rows.map (·.id) → (∃ o ∈ rows, o.id ≠ a.id.val ∧ o.cpf = a.cpf.digits) →
        r.1 = .error (.conflict "cpf already registered")) ∧
      (a.id.val ∈ rows.map (·.id) → (∀ o ∈ rows, o.cpf = a.cpf.digits → o.id = a.id.val) →
        r.1 = .ok () ∧ v.rows r.2.database k =
          rows.map fun o => if o.id = a.id.val then ⟨a.id.val, a.name, a.cpf.digits, a.email⟩ else o)) ∧
    (∀ (ctx : CallContext) (p f : AccountId), Paired rows accts p.val f.val →
      let r := ((Remote.store db k).findById ctx p).run w
      Agree (SameAccount (pairing rows accts)) r.1 (((Memory.store k).findById ctx f).run m).1 ∧
      (p.val ∉ rows.map (·.id) → r.1 = .error .notFound) ∧
      (p.val ∈ rows.map (·.id) → ∃ x, r.1 = .ok x ∧ x.id = p)) ∧
    (∀ (ctx : CallContext) (c : Cpf),
      let r := ((Remote.store db k).findByTaxId ctx c).run w
      Agree (SameAccount (pairing rows accts)) r.1 (((Memory.store k).findByTaxId ctx c).run m).1 ∧
      (c.digits ∉ rows.map (·.cpf) → r.1 = .error .notFound) ∧
      (c.digits ∈ rows.map (·.cpf) → ∃ x, r.1 = .ok x ∧ x.cpf = c)) := by
  have hm := h.mirror hdb
  refine ⟨fun x hx y hy => hm.pairing_lt_iff hx hy, ?_, ?_, ?_, ?_⟩
  · intro ctx a hv
    exact ⟨(hm.insert hdb ctx hv).1, fun hc => by rw [Remote.insert_run_held hdb k ctx hm.ready hv hc],
      fun hc => by rw [Remote.insert_run_fresh hdb k ctx hm.ready hv hc]⟩
  · intro ctx a f hv hp
    refine ⟨(hm.save hdb ctx f hv hp).1, fun hi => by rw [Remote.save_run_missing hdb k ctx hm.ready hv hi],
      fun hi hc => by rw [Remote.save_run_held hdb k ctx hm.ready hv hi hc], fun hi hc => ?_⟩
    rw [Remote.save_run_free hdb k ctx hm.ready hv hi hc]
    exact ⟨rfl, (hdb.update_free _ k _ _ _ _ hm.ready hv hi hc).2⟩
  · intro ctx p f hp
    exact ⟨(hm.findById hdb ctx p f hp).1, hm.findById_outcome hdb ctx p⟩
  · intro ctx c
    exact ⟨(hm.findByTaxId hdb ctx c).1, hm.findByTaxId_outcome hdb ctx c⟩

/-- Over the database the program runs against, after a customer is stored, a second customer
with the same tax id is refused as a conflict by both stores. -/
theorem remote_store_answers_like_memory_store_repeated_tax_id :
    let w₀ : Remote.World Remote.Database Remote.Directory := { database := { migrated := true }, directory := {} }
    let ana : Account := ⟨⟨0⟩, "Ana", ⟨"17107972073"⟩, "ana@example.com"⟩
    let bia : Account := ⟨⟨0⟩, "Bia", ⟨"17107972073"⟩, "bia@example.com"⟩
    let w₁ := (((Remote.store Remote.Database.server .customer).insert {} ana).run w₀).2
    let m₁ := (((Memory.store .customer).insert {} ana).run {}).2
    Mirrored Remote.Database.server Remote.Database.view .customer w₁ m₁ ∧
      (((Remote.store Remote.Database.server .customer).insert {} bia).run w₁).1 =
        .error (.conflict "cpf already registered") ∧
      Agree (fun p f => (p.val, f.val) ∈ pairing
          (Remote.Database.view.rows (((Remote.store Remote.Database.server .customer).insert {} bia).run w₁).2.database .customer)
          ((((Memory.store .customer).insert {} bia).run m₁).2.table .customer).rows)
        (((Remote.store Remote.Database.server .customer).insert {} bia).run w₁).1
        (((Memory.store .customer).insert {} bia).run m₁).1 := by
  intro w₀ ana bia w₁ m₁
  have hv : Cpf.parse ana.cpf.digits = .ok ana.cpf := by decide
  have h : Mirrored Remote.Database.server Remote.Database.view .customer w₁ m₁ :=
    .insert {} (.start ⟨rfl, rfl⟩ rfl rfl rfl) hv
  have hheld : bia.cpf.digits ∈ (Remote.Database.view.rows w₁.database .customer).map (·.cpf) := by decide
  have hbia := (remote_store_answers_like_memory_store Remote.Database.standardSql h).2.1 {} bia hv
  exact ⟨h, hbia.2.1 hheld, hbia.1⟩

end Runs

end AccountRegistry
