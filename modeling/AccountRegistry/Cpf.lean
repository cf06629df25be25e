/-!
CPF, the Brazilian taxpayer number: eleven decimal digits whose last two are check
digits over the first nine and first ten. Users write it with or without punctuation;
everything here keeps and compares the digit-only form.

`Cpf.parse` keeps the ASCII digits of its input and checks, in this order: there are
eleven of them, they are not all the same digit, and both check digits match. The
check digit of a body is a weighted sum modulo 11, with weights running from one more
than the body's length down to 2, where a remainder below 2 gives 0.
-/

set_option autoImplicit false

namespace AccountRegistry

/-- Why a text is not a CPF. -/
inductive CpfError where
  /-- The input does not reduce to exactly eleven digits. -/
  | wrongLength (found : Nat)
  /-- Every digit is the same; such numbers pass the checksum but are never issued. -/
  | repeatedDigits
  /-- One of the two check digits does not match. -/
  | checksumMismatch
  deriving DecidableEq, Repr

namespace CpfError

/-- The variant's name, as the protocol reports it. -/
def name : CpfError → String
  | .wrongLength _ => "WrongLength"
  | .repeatedDigits => "RepeatedDigits"
  | .checksumMismatch => "ChecksumMismatch"

/-- The human-readable text of the error. -/
def message : CpfError → String
  | .wrongLength n => s!"cpf must have 11 digits (found {n})"
  | .repeatedDigits => "cpf cannot be a repeated digit sequence"
  | .checksumMismatch => "cpf check digits do not match"

end CpfError

/-- A validated CPF: eleven ASCII digits, not all equal, with matching check digits. -/
structure Cpf where
  /-- The normalized digits. -/
  digits : String
  deriving DecidableEq, Repr

namespace Cpf

/-- Keeps the ASCII digits of a text, dropping punctuation, blanks and other scripts' digits. -/
def normalize (raw : String) : String :=
  String.ofList (raw.toList.filter Char.isDigit)

/-- The values of the ASCII digits of a digit-only text. -/
def values (clean : String) : List Nat :=
  clean.toList.map fun c => c.toNat - '0'.toNat

/-- The weighted sum of a body: the first digit weighs one more than the body's length,
and each later digit one less than the one before it, down to 2. -/
def weightedSum : List Nat → Nat
  | [] => 0
  | d :: ds => d * (ds.length + 2) + weightedSum ds

/-- The check digit of a body: a remainder below 2 gives 0, else 11 less the remainder. -/
def checkDigit (body : List Nat) : Nat :=
  let r := weightedSum body % 11
  if r < 2 then 0 else 11 - r

/-- Whether every digit equals the first. -/
def allSame : List Nat → Bool
  | [] => true
  | d :: ds => ds.all (· == d)

/-- Checks the digit values of a normalized text, reporting the first rule it breaks. -/
def check (ds : List Nat) : Except CpfError Unit :=
  if ds.length ≠ 11 then .error (.wrongLength ds.length)
  else if allSame ds then .error .repeatedDigits
  else if ds[9]? = some (checkDigit (ds.take 9)) ∧ ds[10]? = some (checkDigit (ds.take 10)) then
    .ok ()
  else .error .checksumMismatch

/-- Reads a CPF from user input, with or without punctuation. -/
def parse (raw : String) : Except CpfError Cpf :=
  let clean := normalize raw
  match check (values clean) with
  | .ok () => .ok ⟨clean⟩
  | .error e => .error e

/-- The normalized digits of an input and whether they form a CPF. -/
def validate (raw : String) : String × Bool :=
  let clean := normalize raw
  (clean, match check (values clean) with
    | .ok () => true
    | .error _ => false)

/-- The characters of the digits from position `i`, `n` of them. -/
def part (c : Cpf) (i n : Nat) : String :=
  String.ofList ((c.digits.toList.drop i).take n)

/-- The conventional presentation `ddd.ddd.ddd-dd`. -/
def formatted (c : Cpf) : String :=
  c.part 0 3 ++ "." ++ c.part 3 3 ++ "." ++ c.part 6 3 ++ "-" ++ c.part 9 2

/-- A form safe for logs: only the last four digits are shown. -/
def masked (c : Cpf) : String :=
  "***.***.*" ++ c.part 7 2 ++ "-" ++ c.part 9 2

end Cpf

end AccountRegistry
