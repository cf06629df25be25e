import AccountRegistry.Cpf

/-!
Accounts and the payloads exchanged with callers: store-assigned identifiers, the two
kinds of account, persisted records, create/update drafts whose tax id is still raw
text, and the access token a login yields.
-/

set_option autoImplicit false

namespace AccountRegistry

/-- Identifier assigned by the account store; zero means "not stored yet". Values stay in
the range of a signed 64-bit word, which every reader of identifiers checks. -/
structure AccountId where
  /-- The numeric value. -/
  val : Int
  deriving DecidableEq, Repr, Inhabited

namespace AccountId

/-- The identifier of an account that has not been stored. -/
def unassigned : AccountId := ⟨0⟩

/-- Whether the store has assigned this identifier. -/
def isAssigned (i : AccountId) : Bool := i.val != 0

/-- Decimal text, with a minus sign for negative values. -/
def display (i : AccountId) : String := toString i.val

end AccountId

/-- The two kinds of account; they share every flow and differ in provider group and table. -/
inductive AccountKind where
  | customer
  | adminUser
  deriving DecidableEq, Repr, Inhabited

namespace AccountKind

/-- The lowercase label used in logs, tables and payloads. -/
def label : AccountKind → String
  | .customer => "customer"
  | .adminUser => "admin_user"

/-- The component name that failures of this kind's service are attributed to. -/
def serviceName : AccountKind → String
  | .customer => "CustomerService"
  | .adminUser => "UserAdminService"

/-- Reads a label back. -/
def ofLabel? : String → Option AccountKind
  | "customer" => some .customer
  | "admin_user" => some .adminUser
  | _ => none

end AccountKind

/-- A persisted account; its tax id is always a valid CPF. -/
structure Account where
  id : AccountId
  name : String
  cpf : Cpf
  email : String
  deriving DecidableEq, Repr

/-- A create or update request: the tax id is raw input, validated by the service. -/
structure AccountDraft where
  id : AccountId := AccountId.unassigned
  name : String
  cpf : String
  email : String
  deriving DecidableEq, Repr

/-- The account a draft describes once its tax id is validated. -/
def AccountDraft.toAccount (d : AccountDraft) (cpf : Cpf) : Account :=
  { id := d.id, name := d.name, cpf := cpf, email := d.email }

/-- An access token issued by the identity provider for one login. -/
structure CredentialToken where
  accessToken : String
  deriving DecidableEq, Repr

/-- How a token shows itself in diagnostics: the secret is always hidden. -/
def CredentialToken.debugText (_ : CredentialToken) : String :=
  "CredentialToken \x7b access_token: \"[REDACTED]\" \x7d"

end AccountRegistry
