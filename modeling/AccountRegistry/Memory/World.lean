import AccountRegistry.Service
import AccountRegistry.Http.Router

/-!
An in-memory world for the account services: one identity provider shared by both kinds,
one table per account kind, and a record of every capability call and log event.

The provider registers every identity and hands out fixed tokens. A table keeps its rows
in identifier order and numbers new rows from a counter that starts at 1 and advances only
when a row is added. A tax id is unique within a table.

Failures are injected by arming: an armed failure fires on the next matching call and is
then spent. The provider has one slot for registration and one shared by both logins; a
table has one slot per operation. Arming a slot again replaces what it held. Every call is
recorded before it can fail.
-/

set_option autoImplicit false

namespace AccountRegistry.Memory

/-- The table operations that can be armed to fail. -/
inductive TableOp where
  | insert
  | save
  | findById
  | findByTaxId
  | ping
  deriving DecidableEq, Repr

/-- A call to a table, with what it was given. -/
inductive TableCall where
  | insert (ctx : CallContext) (a : Account)
  | save (ctx : CallContext) (a : Account)
  | findById (ctx : CallContext) (id : AccountId)
  | findByTaxId (ctx : CallContext) (cpf : Cpf)
  | ping
  deriving Repr

/-- A capability call, with what it was given. -/
inductive Call where
  | register (ctx : CallContext) (r : Registration)
  | authenticate (ctx : CallContext) (taxId : String)
  | authenticateAnonymous (ctx : CallContext)
  | table (kind : AccountKind) (c : TableCall)
  deriving Repr

/-- The rows of one account kind, its id counter and its armed failures. -/
structure Table where
  rows : List Account := []
  nextId : Int := 1
  armed : List (TableOp × StoreFailure) := []
  deriving Repr

namespace Table

/-- The table with a failure armed for an operation, replacing one already armed. -/
def arm (t : Table) (op : TableOp) (e : StoreFailure) : Table :=
  { t with armed := (op, e) :: t.armed.filter (·.1 != op) }

/-- The failure armed for an operation, and the table without it. -/
def take (t : Table) (op : TableOp) : Option StoreFailure × Table :=
  match t.armed.find? (·.1 == op) with
  | some (_, e) => (some e, { t with armed := t.armed.filter (·.1 != op) })
  | none => (none, t)

/-- The failure of a tax id already held by another row. -/
def taken : StoreFailure := .conflict "cpf already registered"

/-- Adds a row under the next id. -/
def add (t : Table) (a : Account) : AccountId × Table :=
  let id : AccountId := ⟨t.nextId⟩
  (id, { t with rows := t.rows ++ [{ a with id := id }], nextId := t.nextId + 1 })

/-- Adds a row unless its tax id is held. -/
def insert (t : Table) (a : Account) : Except StoreFailure (AccountId × Table) :=
  if t.rows.any (·.cpf == a.cpf) then .error taken else .ok (t.add a)

/-- Replaces the row with the account's id, unless there is none or another row holds its
tax id. -/
def save (t : Table) (a : Account) : Except StoreFailure Table :=
  if !t.rows.any (·.id == a.id) then .error .notFound
  else if t.rows.any (fun r => r.id != a.id && r.cpf == a.cpf) then .error taken
  else .ok { t with rows := t.rows.map fun r => if r.id == a.id then a else r }

/-- The row with an id. -/
def findById (t : Table) (id : AccountId) : Except StoreFailure Account :=
  match t.rows.find? (·.id == id) with
  | some a => .ok a
  | none => .error .notFound

/-- The first row, in id order, with a tax id. -/
def findByTaxId (t : Table) (cpf : Cpf) : Except StoreFailure Account :=
  match t.rows.find? (·.cpf == cpf) with
  | some a => .ok a
  | none => .error .notFound

end Table

/-- The whole world. -/
structure World where
  token : String := "TOKEN"
  guestToken : String := "GUEST-TOKEN"
  registerArmed : Option IdentityFailure := none
  loginArmed : Option IdentityFailure := none
  customers : Table := {}
  admins : Table := {}
  /-- Whether the tables leave `ping` to the default, which always succeeds unrecorded. -/
  defaultPing : Bool := false
  calls : List Call := []
  events : List LogEvent := []
  /-- The open spans, outermost first. -/
  spans : List Span := []

/-- A step of work in the world. -/
abbrev Step := StateM World

namespace World

/-- The table of an account kind. -/
def table (w : World) : AccountKind → Table
  | .customer => w.customers
  | .adminUser => w.admins

/-- The world with the table of an account kind replaced. -/
def withTable (w : World) (k : AccountKind) (t : Table) : World :=
  match k with
  | .customer => { w with customers := t }
  | .adminUser => { w with admins := t }

end World

/-- Records a call. -/
def record (c : Call) : Step Unit := modify fun w => { w with calls := w.calls ++ [c] }

/-- The journal of the world: events are kept with the spans open when they happen. -/
def journal : Journal Step where
  emit e := modify fun w => { w with events := w.events ++ [{ e with spans := w.spans ++ e.spans }] }
  enclose s x := do
    let saved := (← get).spans
    modify fun w => { w with spans := saved ++ [s] }
    let a ← x
    modify fun w => { w with spans := saved }
    pure a

/-- Fires the registration slot if armed. -/
def takeRegister : Step (Option IdentityFailure) := do
  let w ← get
  set { w with registerArmed := none }
  pure w.registerArmed

/-- Fires the shared login slot if armed. -/
def takeLogin : Step (Option IdentityFailure) := do
  let w ← get
  set { w with loginArmed := none }
  pure w.loginArmed

/-- The identity provider: registration always succeeds, logins give the fixed tokens. -/
def identity : IdentityProvider Step where
  register ctx r := do
    record (.register ctx r)
    match ← takeRegister with
    | some e => pure (.error e)
    | none => pure (.ok ())
  authenticate ctx taxId := do
    record (.authenticate ctx taxId)
    match ← takeLogin with
    | some e => pure (.error e)
    | none => pure (.ok ⟨(← get).token⟩)
  authenticateAnonymous ctx := do
    record (.authenticateAnonymous ctx)
    match ← takeLogin with
    | some e => pure (.error e)
    | none => pure (.ok ⟨(← get).guestToken⟩)

/-- Records a table call and fires its slot if armed. -/
def enter (k : AccountKind) (op : TableOp) (c : TableCall) : Step (Option StoreFailure) := do
  record (.table k c)
  let w ← get
  let (e, t) := (w.table k).take op
  set (w.withTable k t)
  pure e

/-- Runs a table operation on the table of an account kind, keeping the table it leaves. -/
def commit {α : Type} (k : AccountKind) (f : Table → Except StoreFailure (α × Table)) :
    Step (Except StoreFailure α) := do
  let w ← get
  match f (w.table k) with
  | .ok (a, t) =>
    set (w.withTable k t)
    pure (.ok a)
  | .error e => pure (.error e)

/-- Runs a table operation after its armed slot. -/
def onTable {α : Type} (k : AccountKind) (op : TableOp) (c : TableCall)
    (f : Table → Except StoreFailure (α × Table)) : Step (Except StoreFailure α) := do
  match ← enter k op c with
  | some e => pure (.error e)
  | none => commit k f

/-- The table of an account kind as a store. -/
def store (k : AccountKind) : AccountStore Step where
  insert ctx a := onTable k .insert (.insert ctx a) fun t => t.insert a
  save ctx a := onTable k .save (.save ctx a) fun t => (t.save a).map fun t' => ((), t')
  findById ctx id := onTable k .findById (.findById ctx id) fun t => (t.findById id).map (·, t)
  findByTaxId ctx cpf := onTable k .findByTaxId (.findByTaxId ctx cpf) fun t => (t.findByTaxId cpf).map (·, t)
  ping := do
    if (← get).defaultPing then pure (.ok ())
    else onTable k .ping .ping fun t => .ok ((), t)

/-- The service of an account kind. -/
def service (k : AccountKind) : AccountService Step := ⟨k, identity, store k, journal⟩

/-- Both services with a per-request time budget. -/
def app (callTimeoutSecs : Nat) : Http.App Step := ⟨service .customer, service .adminUser, callTimeoutSecs⟩

/-- Stores a row directly under the next id. -/
def seed (k : AccountKind) (a : Account) : Step AccountId := do
  let w ← get
  let (id, t) := (w.table k).add a
  set (w.withTable k t)
  pure id

/-- Arms the registration slot. -/
def armRegister (e : IdentityFailure) : Step Unit := modify fun w => { w with registerArmed := some e }

/-- Arms the shared login slot. -/
def armLogin (e : IdentityFailure) : Step Unit := modify fun w => { w with loginArmed := some e }

/-- Arms a table slot. -/
def armTable (k : AccountKind) (op : TableOp) (e : StoreFailure) : Step Unit :=
  modify fun w => w.withTable k ((w.table k).arm op e)

/-- The calls and events since the last drain, which are then forgotten. -/
def drain : Step (List Call × List LogEvent) := do
  let w ← get
  set { w with calls := [], events := [] }
  pure (w.calls, w.events)

end AccountRegistry.Memory
