import AccountRegistry.Account
import AccountRegistry.Failure.Store

/-!
Reading a query's column into a value of the program. A column has one of two database
types, text or 64-bit integer; a tax id and a text read from text, an identifier and an
integer from integers. Reading from the other type is a type mismatch, and a tax id read
from text must also parse.
-/

set_option autoImplicit false

namespace AccountRegistry.Remote

/-- The database types a column can have. -/
inductive ColumnType where
  | text
  | int8
  deriving DecidableEq, Repr

/-- The name of a database type. -/
def ColumnType.name : ColumnType → String
  | .text => "TEXT"
  | .int8 => "INT8"

/-- A column's value. -/
inductive Cell where
  | text (s : String)
  | int8 (n : Int)
  deriving DecidableEq, Repr

/-- The type of a column's value. -/
def Cell.type : Cell → ColumnType
  | .text _ => .text
  | .int8 _ => .int8

/-- The values a column can be read as. -/
inductive Reading where
  | cpf
  | accountId
  | text
  | int8
  deriving DecidableEq, Repr

namespace Reading

/-- The program's name for the value's type. -/
def typeName : Reading → String
  | .cpf => "customer_identity_core::types::cpf::Cpf"
  | .accountId => "customer_identity_core::types::id::AccountId"
  | .text => "alloc::string::String"
  | .int8 => "i64"

/-- The database type the value is stored as. -/
def columnType : Reading → ColumnType
  | .cpf | .text => .text
  | .accountId | .int8 => .int8

end Reading

/-- A value read from a column. -/
inductive Decoded where
  | cpf (c : Cpf)
  | accountId (id : AccountId)
  | text (s : String)
  | int8 (n : Int)
  deriving DecidableEq, Repr

/-- Reads the first column of a row. -/
def decodeColumn (r : Reading) (c : Cell) : Except DatabaseFault Decoded :=
  if r.columnType != c.type then
    .error (.columnDecode 0 ("mismatched types; Rust type `" ++ r.typeName ++ "` (as SQL type `" ++
      r.columnType.name ++ "`) is not compatible with SQL type `" ++ c.type.name ++ "`"))
  else
    match r, c with
    | .cpf, .text s =>
      match Cpf.parse s with
      | .ok cpf => .ok (.cpf cpf)
      | .error e => .error (.columnDecode 0 e.message)
    | .text, .text s => .ok (.text s)
    | .accountId, .int8 n => .ok (.accountId ⟨n⟩)
    | _, .int8 n => .ok (.int8 n)
    | _, .text s => .ok (.text s)

end AccountRegistry.Remote
