import AccountRegistry.Cpf

/-!
The tax-id check as the machine runs it. The check reads the bytes of the normalized text,
turns each into a digit by an 8-bit subtraction and computes the check digits in 32-bit words.
Every such operation stops the program where its exact result would leave its word, and a list
split stops it where the split point lies past the end. Here each operation gives its exact
result or the reason the program stops (`Panic`); `parseBytes` and `validateBytes` are `parse`
and `validate` run that way.
-/

set_option autoImplicit false

namespace AccountRegistry

/-- Why the machine stops a computation. -/
inductive Panic where
  /-- A subtraction would go below zero. -/
  | subtractOverflow
  /-- A sum would not fit its word. -/
  | addOverflow
  /-- A product would not fit its word. -/
  | multiplyOverflow
  /-- A list of `len` items is split at `mid`, past its end. -/
  | splitPastEnd (mid len : Nat)
  deriving DecidableEq, Repr

namespace Word

/-- Subtraction of bytes, stopping below zero. -/
def sub8 (a b : UInt8) : Except Panic UInt8 :=
  if b ≤ a then .ok (a - b) else .error .subtractOverflow

/-- Addition of 32-bit words, stopping past the largest word. -/
def add32 (a b : UInt32) : Except Panic UInt32 :=
  if a.toNat + b.toNat < UInt32.size then .ok (a + b) else .error .addOverflow

/-- Multiplication of 32-bit words, stopping past the largest word. -/
def mul32 (a b : UInt32) : Except Panic UInt32 :=
  if a.toNat * b.toNat < UInt32.size then .ok (a * b) else .error .multiplyOverflow

/-- Subtraction of 32-bit words, stopping below zero. -/
def sub32 (a b : UInt32) : Except Panic UInt32 :=
  if b ≤ a then .ok (a - b) else .error .subtractOverflow

/-- A length as a 32-bit word, or 0 when it does not fit one. -/
def ofLength (n : Nat) : UInt32 :=
  if n < UInt32.size then n.toUInt32 else 0

/-- The words `top, top - 1, …, 2`, none when `top` is below 2. -/
def countdown (top : UInt32) : List UInt32 :=
  (List.range (top.toNat - 1)).map fun i => (top.toNat - i).toUInt32

theorem sub8_of_le {a b : UInt8} (h : b ≤ a) : sub8 a b = .ok (a - b) := if_pos h

theorem add32_of_lt {a b : UInt32} (h : a.toNat + b.toNat < UInt32.size) :
    ∃ c, add32 a b = .ok c ∧ c.toNat = a.toNat + b.toNat :=
  ⟨a + b, if_pos h, by rw [UInt32.toNat_add]; exact Nat.mod_eq_of_lt h⟩

theorem mul32_of_lt {a b : UInt32} (h : a.toNat * b.toNat < UInt32.size) :
    ∃ c, mul32 a b = .ok c ∧ c.toNat = a.toNat * b.toNat :=
  ⟨a * b, if_pos h, by rw [UInt32.toNat_mul]; exact Nat.mod_eq_of_lt h⟩

theorem sub32_of_le {a b : UInt32} (h : b.toNat ≤ a.toNat) :
    ∃ c, sub32 a b = .ok c ∧ c.toNat = a.toNat - b.toNat :=
  ⟨a - b, if_pos (UInt32.le_iff_toNat_le.2 h), UInt32.toNat_sub_of_le _ _ (UInt32.le_iff_toNat_le.2 h)⟩

theorem toNat_ofLength {n : Nat} (h : n < UInt32.size) : (ofLength n).toNat = n := by
  rw [ofLength, if_pos h, Nat.toUInt32_eq, UInt32.toNat_ofNat_of_lt' h]

/-- Counting down from `n + 2` is `n + 2` followed by counting down from `n + 1`. -/
theorem countdown_succ {n : Nat} (h : n + 2 < UInt32.size) :
    countdown (n + 2).toUInt32 = (n + 2).toUInt32 :: countdown (n + 1).toUInt32 := by
  rw [countdown, countdown, Nat.toUInt32_eq, Nat.toUInt32_eq, UInt32.toNat_ofNat_of_lt' h,
    UInt32.toNat_ofNat_of_lt' (show n + 1 < UInt32.size by omega), show n + 2 - 1 = n + 1 by omega, List.range_succ_eq_map, List.map_cons,
    List.map_map]
  congr 1
  apply List.map_congr_left
  intro i _
  simp only [Function.comp, Nat.succ_eq_add_one]
  congr 1
  omega

end Word

/-- The items before position `mid` and the rest, stopping when `mid` lies past the end. -/
def splitAt {α : Type} (xs : List α) (mid : Nat) : Except Panic (List α × List α) :=
  if mid ≤ xs.length then .ok (xs.take mid, xs.drop mid) else .error (.splitPastEnd mid xs.length)

theorem splitAt_of_le {α : Type} {xs : List α} {mid : Nat} (h : mid ≤ xs.length) :
    splitAt xs mid = .ok (xs.take mid, xs.drop mid) := if_pos h

/-- A computation that gives a result passes it on. -/
theorem bind_of_eq_ok {ε α β : Type} {x : Except ε α} {a : α} (h : x = .ok a) (f : α → Except ε β) :
    (x >>= f) = f a := by
  rw [h]
  rfl

/-- The bytes of a text's UTF-8 encoding, in order. -/
def utf8Bytes (s : String) : List UInt8 := s.toByteArray.data.toList

namespace Cpf

open Word

/-- The check digit of a body of digit words: the weighted sum over the weights from one more
than the body's length down to 2, then the remainder rule of `checkDigit`. -/
def checkDigitWords (body : List UInt32) : Except Panic UInt32 := do
  let top ← add32 (ofLength body.length) 1
  let sum ← (body.zip (countdown top)).foldlM (fun acc (d, w) => do add32 acc (← mul32 d w)) 0
  let r := sum % 11
  if r < 2 then pure 0 else sub32 11 r

/-- The rules of `check`, in the same order, on digit words. -/
def checkWords (digits : List UInt32) : Except Panic (Except CpfError Unit) := do
  if digits.length ≠ 11 then return .error (.wrongLength digits.length)
  if allSame (digits.map (·.toNat)) then return .error .repeatedDigits
  let (body, _) ← splitAt digits 9
  let first ← checkDigitWords body
  let (body, _) ← splitAt digits 10
  let second ← checkDigitWords body
  if digits[9]? = some first ∧ digits[10]? = some second then return .ok ()
  else return .error .checksumMismatch

/-- The check of a normalized text, on its bytes: each byte less `'0'` is a digit word. -/
def checkBytes (clean : List UInt8) : Except Panic (Except CpfError Unit) := do
  let digits ← clean.mapM fun b => do pure (← sub8 b '0'.toUInt8).toUInt32
  checkWords digits

/-- `parse`, with the check run on the bytes. -/
def parseBytes (raw : String) : Except Panic (Except CpfError Cpf) := do
  let clean := normalize raw
  match ← checkBytes (utf8Bytes clean) with
  | .ok () => pure (.ok ⟨clean⟩)
  | .error e => pure (.error e)

/-- `validate`, with the check run on the bytes. -/
def validateBytes (raw : String) : Except Panic (String × Bool) := do
  let clean := normalize raw
  let verdict ← checkBytes (utf8Bytes clean)
  pure (clean, verdict.isOk)

end Cpf

end AccountRegistry
