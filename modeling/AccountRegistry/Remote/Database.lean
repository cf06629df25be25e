import AccountRegistry.Remote.Servers

/-!
A relational database the program is run against: one table per account kind, an id
sequence per table, the schema's migration state and its history (`Database.server`).

A table keeps its rows in id order. Ids come from the table's sequence, which starts at 0
and is advanced by every insert that reaches the table, whether the row is then stored or
refused. A stored tax id must be eleven ASCII digits (a check constraint) and unique in its
table (a unique constraint); an update is checked against the other rows only.

Until the schema is migrated, every statement on the tables fails as if they did not
exist; the ping does not touch them. A failure can be planted for the next statement of a
kind: it answers that statement in place of the database, which is left untouched.
-/

set_option autoImplicit false

namespace AccountRegistry.Remote

/-- Whether a tax id passes the check constraint: eleven ASCII digits. -/
def digitsOk (cpf : String) : Bool := cpf.length == 11 && cpf.toList.all Char.isDigit

/-- The refusal of the check constraint of a table. -/
def checkViolation (k : AccountKind) : Refusal :=
  .error "23514" ("new row for relation \"" ++ k.label ++ "\" violates check constraint \"" ++ k.label ++ "_cpf_digits\"")

/-- The refusal of the unique constraint of a table. -/
def duplicate (k : AccountKind) : Refusal :=
  .error uniqueViolation ("duplicate key value violates unique constraint \"" ++ k.label ++ "_cpf_key\"")

/-- The refusal of a statement on a table that does not exist yet. -/
def missingRelation (k : AccountKind) : Refusal :=
  .error "42P01" ("relation \"identity." ++ k.label ++ "\" does not exist")

/-- The whole database. -/
structure Database where
  customers : List Row := []
  admins : List Row := []
  customerSeq : Int := 0
  adminSeq : Int := 0
  migrated : Bool := false
  history : List MigrationRow := []
  planted : List (String × Refusal) := []
  /-- A refusal of every connection attempt, kept until the database is reset. -/
  connectRefusal : Option Refusal := none
  deriving Repr

namespace Database

/-- The rows of a table. -/
def rows (db : Database) : AccountKind → List Row
  | .customer => db.customers
  | .adminUser => db.admins

/-- The database with the rows of a table replaced. -/
def withRows (db : Database) (k : AccountKind) (rs : List Row) : Database :=
  match k with
  | .customer => { db with customers := rs }
  | .adminUser => { db with admins := rs }

/-- Advances the sequence of a table and gives its new value. -/
def nextval (db : Database) : AccountKind → Int × Database
  | .customer => (db.customerSeq + 1, { db with customerSeq := db.customerSeq + 1 })
  | .adminUser => (db.adminSeq + 1, { db with adminSeq := db.adminSeq + 1 })

/-- Plants a failure for the next statement of a kind, replacing one planted before. -/
def plant (db : Database) (target : String) (r : Refusal) : Database :=
  { db with planted := (target, r) :: db.planted.filter (·.1 != target) }

/-- The failure planted for a kind of statement, and the database without it. -/
def takePlanted (db : Database) (target : String) : Option Refusal × Database :=
  match db.planted.find? (·.1 == target) with
  | some (_, r) => (some r, { db with planted := db.planted.filter (·.1 != target) })
  | none => (none, db)

/-- Stores a row as given under the next id of its table. -/
def seed (db : Database) (k : AccountKind) (name cpf email : String) : Int × Database :=
  let (id, db) := db.nextval k
  (id, db.withRows k (db.rows k ++ [⟨id, name, cpf, email⟩]))

/-- Runs a statement on a migrated database. -/
def execute (db : Database) : Statement → Except Refusal Answer × Database
  | .insert k name cpf email =>
    let (id, db) := db.nextval k
    if !digitsOk cpf then (.error (checkViolation k), db)
    else if (db.rows k).any (·.cpf == cpf) then (.error (duplicate k), db)
    else (.ok (.inserted id), db.withRows k (db.rows k ++ [⟨id, name, cpf, email⟩]))
  | .update k id name cpf email =>
    if !(db.rows k).any (·.id == id) then (.ok (.affected 0), db)
    else if !digitsOk cpf then (.error (checkViolation k), db)
    else if (db.rows k).any (fun r => r.id != id && r.cpf == cpf) then (.error (duplicate k), db)
    else (.ok (.affected 1), db.withRows k ((db.rows k).map fun r => if r.id == id then ⟨id, name, cpf, email⟩ else r))
  | .selectById k id => (.ok (.rows ((db.rows k).filter (·.id == id))), db)
  | .selectByCpf k cpf => (.ok (.rows ((db.rows k).filter (·.cpf == cpf))), db)
  | .ping => (.ok (.rows []), db)

/-- Answers a statement: a planted failure first, then the missing tables, then the
statement itself. -/
def run (db : Database) (s : Statement) : Except Refusal Answer × Database :=
  match db.takePlanted s.target with
  | (some r, db) => (.error r, db)
  | (none, db) =>
    match s.table? with
    | some k => if db.migrated then db.execute s else (.error (missingRelation k), db)
    | none => db.execute s

/-- Runs the migration script: it creates the tables, once. A failure planted for
`migration` answers in its place. -/
def runScript (db : Database) : Except Refusal Unit × Database :=
  match db.takePlanted "migration" with
  | (some r, db) => (.error r, db)
  | (none, db) =>
    if db.migrated then (.error (.error "42P07" "relation \"customer\" already exists"), db)
    else (.ok (), { db with migrated := true })

/-- Adds or replaces a history row. -/
def record (db : Database) (m : MigrationRow) : Database :=
  { db with history := db.history.filter (·.version != m.version) ++ [m] }

/-- The database as a server. A script answered by a planted failure never reaches it. -/
def server : DatabaseServer Database where
  run := run
  connectRefusal := connectRefusal
  history := history
  runScript db := (!db.planted.any (·.1 == "migration"), db.runScript)
  record := record

end Database

end AccountRegistry.Remote
