import AccountRegistry.Account
import AccountRegistry.Failure
import AccountRegistry.Json.Shape

/-!
The JSON forms of the payloads: the shape each is read with and the value each is written
as. Records list their fields in declaration order; an account's tax id is read as a string
that must hold a CPF and is written as its digits; a draft's identifier defaults to zero when
absent.
-/

set_option autoImplicit false

namespace AccountRegistry.Payload

open Json

/-- A tax id from its text: the digits of the CPF it holds, or the reason it holds none. -/
def cpfOfText (s : String) : Except String String :=
  match Cpf.parse s with
  | .ok c => .ok c.digits
  | .error e => .error e.message

/-- A tax id: a string that must hold a CPF, kept as its digits. -/
def taxId : ValueShape := .converted cpfOfText

/-- The written form of a tax id: its digits. -/
def ofCpf (c : Cpf) : Json := .str c.digits

/-- A stored account. -/
def account : RecordShape :=
  ⟨"Account", [⟨"id", .integer, none⟩, ⟨"name", .text, none⟩, ⟨"cpf", taxId, none⟩,
    ⟨"email", .text, none⟩]⟩

/-- A create or update request. -/
def draft : RecordShape :=
  ⟨"AccountInput", [⟨"id", .integer, some (.int 0)⟩, ⟨"name", .text, none⟩, ⟨"cpf", .text, none⟩,
    ⟨"email", .text, none⟩]⟩

/-- The answer to a creation. -/
def created : RecordShape := ⟨"AccountCreated", [⟨"id", .integer, none⟩]⟩

/-- A login's token. -/
def token : RecordShape := ⟨"CredentialToken", [⟨"accessToken", .text, none⟩]⟩

/-- A body holding only a tax id. -/
def taxIdForm : RecordShape := ⟨"TaxIdForm", [⟨"cpf", .text, none⟩]⟩

/-- An account kind, by its label. -/
def kind : ValueShape := .choice ["customer", "admin_user"]

/-- A failure kind, by its name. -/
def failureKind : ValueShape := .choice (FailureKind.all.map FailureKind.name)

/-- The written form of an account. -/
def ofAccount (a : Account) : Json :=
  .obj [("id", .int a.id.val), ("name", .str a.name), ("cpf", ofCpf a.cpf), ("email", .str a.email)]

/-- The written form of a creation's answer. -/
def ofCreated (id : AccountId) : Json := .obj [("id", .int id.val)]

/-- The written form of a token. -/
def ofToken (t : CredentialToken) : Json := .obj [("accessToken", .str t.accessToken)]

/-- A draft from its read form. -/
def toDraft (j : Json) : AccountDraft :=
  { id := ⟨(j.intField? "id").getD 0⟩, name := (j.strField? "name").getD "",
    cpf := (j.strField? "cpf").getD "", email := (j.strField? "email").getD "" }

end AccountRegistry.Payload
