import AccountRegistry.Proofs.CpfEncodings
import Mathlib.Data.ZMod.Basic
import Mathlib.Tactic.IntervalCases
import Mathlib.Tactic.LinearCombination
import Mathlib.Tactic.Ring

/-!
# Single-digit substitutions

A mistyped digit of a CPF is caught by its check digits, except at two places of the body.

Changing the body digit at position `p` (counted from 0) by `δ` moves the first check digit's
weighted sum by `δ · (10 - p)` and the second one's by `δ · (11 - p)`, modulo 11
(`weightedSum_set_cast`). The check digit reads the remainders 0 and 1 alike, so it survives a
move of its sum only when the move is within one of zero (`near_of_checkDigit_eq`). Both moves are
within one of zero only for the weights 5 and 6, at `p = 5` (`weight_five`), and at `p = 0`,
whose second weight 11 vanishes modulo 11. A changed check digit no longer matches its body, which
is unchanged.

Main statement: `single_substitution_detected`.
-/

set_option autoImplicit false

namespace AccountRegistry.Cpf

/-! ## Residues within one of zero -/

/-- A residue modulo 11 within one of zero. -/
def Near (x : ZMod 11) : Prop := x = 0 ∨ x = 1 ∨ x = -1

instance : DecidablePred Near := fun x => inferInstanceAs (Decidable (x = 0 ∨ x = 1 ∨ x = -1))

/-- Two bodies have the same check digit exactly when their sums agree modulo 11, or both leave a
remainder below 2. -/
theorem checkDigit_eq_iff {b b' : List Nat} :
    checkDigit b = checkDigit b' ↔
      weightedSum b % 11 = weightedSum b' % 11 ∨ (weightedSum b % 11 < 2 ∧ weightedSum b' % 11 < 2) := by
  have h := Nat.mod_lt (weightedSum b) (by decide : 11 > 0)
  have h' := Nat.mod_lt (weightedSum b') (by decide : 11 > 0)
  simp only [checkDigit]
  split <;> split <;> omega

/-- A check digit survives only a move of its sum within one of zero. -/
theorem near_of_checkDigit_eq {b b' : List Nat} (h : checkDigit b = checkDigit b') :
    Near ((weightedSum b' : ZMod 11) - weightedSum b) := by
  rw [checkDigit_eq_iff] at h
  rw [← ZMod.natCast_mod (weightedSum b') 11, ← ZMod.natCast_mod (weightedSum b) 11]
  have hr := Nat.mod_lt (weightedSum b) (by decide : 11 > 0)
  have hr' := Nat.mod_lt (weightedSum b') (by decide : 11 > 0)
  generalize weightedSum b % 11 = r at h hr ⊢
  generalize weightedSum b' % 11 = r' at h hr' ⊢
  rcases h with rfl | ⟨h₀, h₀'⟩
  · exact .inl (sub_self _)
  · interval_cases r <;> interval_cases r' <;> decide

/-- For a change `δ ≠ 0` and a weight `w` from 2 to 9, the moves `δ · w` and `δ · (w + 1)` are both
within one of zero only for `w = 5`. -/
theorem weight_five :
    ∀ w : Nat, w < 10 → 2 ≤ w → ∀ δ : ZMod 11, δ ≠ 0 → Near (δ * w) → Near (δ * (w + 1)) → w = 5 := by
  decide

theorem natCast_sub_ne_zero {a v : Nat} (ha : a < 11) (hv : v < 11) (h : a ≠ v) : (v : ZMod 11) - a ≠ 0 := by
  rw [sub_ne_zero]
  intro he
  rw [ZMod.natCast_eq_natCast_iff', Nat.mod_eq_of_lt ha, Nat.mod_eq_of_lt hv] at he
  exact h he.symm

/-! ## Changing one digit -/

/-- Changing one digit of a body moves its weighted sum by the change times the digit's weight. -/
theorem weightedSum_set : ∀ (b : List Nat) {p : Nat} (hp : p < b.length) (v : Nat),
    weightedSum (b.set p v) + b[p] * (b.length + 1 - p) = weightedSum b + v * (b.length + 1 - p)
  | d :: ds, 0, _, v => by
    simp only [List.set_cons_zero, weightedSum, List.getElem_cons_zero, List.length_cons, Nat.sub_zero]
    ring
  | d :: ds, p + 1, hp, v => by
    have ih := weightedSum_set ds (Nat.lt_of_succ_lt_succ hp) v
    have hw : ds.length + 1 + 1 - (p + 1) = ds.length + 1 - p := by omega
    simp only [List.set_cons_succ, weightedSum, List.length_set, List.getElem_cons_succ, List.length_cons, hw]
    omega

theorem weightedSum_set_cast (b : List Nat) {p : Nat} (hp : p < b.length) (v : Nat) :
    (weightedSum (b.set p v) : ZMod 11) - weightedSum b =
      ((v : ZMod 11) - b[p]) * ((b.length + 1 - p : Nat) : ZMod 11) := by
  have h := congrArg (Nat.cast : Nat → ZMod 11) (weightedSum_set b hp v)
  push_cast at h
  linear_combination h

/-! ## Which changes the check digits catch -/

section Digits

variable {ds : List Nat} {p v : Nat}

/-- A change of a body digit at a position other than 0 and 5 breaks a check digit. -/
theorem not_checksOut_set_body (hlen : ds.length = 11) (hc : ChecksOut ds) (hp : p < 9) (h0 : p ≠ 0)
    (h5 : p ≠ 5) {a : Nat} (ha : ds[p]? = some a) (ha10 : a < 10) (hv : v < 10) (hne : a ≠ v) :
    ¬ ChecksOut (ds.set p v) := by
  rintro ⟨h₉, h₁₀⟩
  -- positions 9 and 10 are untouched: both changed bodies keep their check digits
  rw [List.getElem?_set_ne (by omega), hc.1, Option.some_inj, List.take_set] at h₉
  rw [List.getElem?_set_ne (by omega), hc.2, Option.some_inj, List.take_set] at h₁₀
  have n₉ := near_of_checkDigit_eq h₉
  have n₁₀ := near_of_checkDigit_eq h₁₀
  rw [weightedSum_set_cast _ (by simp; omega)] at n₉ n₁₀
  -- the moves are `δ · w` and `δ · (w + 1)` for the weight `w = 10 - p` of the first body
  have hpl : p < ds.length := by omega
  have hpa : ds[p] = a := by simpa [List.getElem?_eq_getElem hpl] using ha
  have hw₉ : (ds.take 9).length + 1 - p = 10 - p := by simp; omega
  have hw₁₀ : (ds.take 10).length + 1 - p = (10 - p) + 1 := by simp; omega
  simp only [List.getElem_take, hpa, hw₉, hw₁₀, Nat.cast_succ] at n₉ n₁₀
  have hδ := natCast_sub_ne_zero (by omega) (by omega) hne
  have := weight_five (10 - p) (by omega) (by omega) _ hδ n₉ n₁₀
  omega

/-- A changed check digit no longer matches its body, which is unchanged. -/
theorem not_checksOut_set_check (hlen : ds.length = 11) (hc : ChecksOut ds) (hp : p = 9 ∨ p = 10)
    (hne : ds[p]? ≠ some v) : ¬ ChecksOut (ds.set p v) := by
  rintro ⟨h₉, h₁₀⟩
  rcases hp with rfl | rfl
  · rw [List.getElem?_set_self (by omega), List.take_set_of_le (by omega)] at h₉
    exact hne (hc.1.trans h₉.symm)
  · rw [List.getElem?_set_self (by omega), List.take_set_of_le (by omega)] at h₁₀
    exact hne (hc.2.trans h₁₀.symm)

/-- Every change of one digit outside positions 0 and 5 breaks a check digit. -/
theorem not_checksOut_set (hlen : ds.length = 11) (hdig : ∀ x ∈ ds, x < 10) (hc : ChecksOut ds)
    (hp : p ∈ [1, 2, 3, 4, 6, 7, 8, 9, 10]) (hv : v < 10) (hne : ds[p]? ≠ some v) :
    ¬ ChecksOut (ds.set p v) := by
  by_cases hcheck : p = 9 ∨ p = 10
  · exact not_checksOut_set_check hlen hc hcheck hne
  · have hbody : p < 9 ∧ p ≠ 0 ∧ p ≠ 5 := by simp at hp; omega
    have hpl : p < ds.length := by omega
    have ha : ds[p]? = some ds[p] := List.getElem?_eq_getElem hpl
    exact not_checksOut_set_body hlen hc hbody.1 hbody.2.1 hbody.2.2 ha (hdig _ (List.getElem_mem hpl)) hv
      fun h => hne (h ▸ ha)

end Digits

/-! ## Texts of digits -/

section Text

/-- A digit's value is below ten. -/
theorem value_lt_ten {x : Char} (h : x.isDigit = true) : x.toNat - '0'.toNat < 10 := by
  rw [Char.isDigit_iff_toNat] at h
  have h₀ : '0'.toNat = 48 := rfl
  have h₉ : '9'.toNat = 57 := rfl
  omega

/-- Putting a digit in a text of digits keeps it a text of digits: its values are the old ones,
with the new digit's value in place. -/
theorem values_normalize_set {l : List Char} (hl : ∀ x ∈ l, x.isDigit = true) {e : Char} (he : e.isDigit = true)
    (p : Nat) :
    values (normalize (String.ofList (l.set p e))) = (l.map fun x => x.toNat - '0'.toNat).set p (e.toNat - '0'.toNat) := by
  have hall : ∀ x ∈ l.set p e, x.isDigit = true := fun x hx => by
    rcases List.mem_or_eq_of_mem_set hx with hx | rfl
    · exact hl x hx
    · exact he
  rw [normalize, String.toList_ofList, List.filter_eq_self.2 hall, values, String.toList_ofList, List.map_set]

/-- Two digits with the same value are the same digit, so a text of digits that differs from a digit at
a position differs from its value there. -/
theorem values_getElem?_ne {s : String} (hs : ∀ x ∈ s.toList, x.isDigit = true) {p : Nat} {e : Char}
    (he : e.isDigit = true) (hne : s.toList[p]? ≠ some e) : (values s)[p]? ≠ some (e.toNat - '0'.toNat) := by
  rw [values, List.getElem?_map, Ne, Option.map_eq_some_iff]
  rintro ⟨x, hx, hxe⟩
  exact hne (by rw [hx, digit_value_inj (hs x (List.mem_of_getElem? hx)) he hxe])

end Text

/-- **Single-digit substitutions are caught outside positions 0 and 5**; at those two, each pair
below differs in one digit and both of its numbers parse. -/
theorem single_substitution_detected :
    (∀ {raw : String} {c : Cpf}, parse raw = .ok c →
      ∀ p ∈ [1, 2, 3, 4, 6, 7, 8, 9, 10], ∀ e : Char, e.isDigit = true → c.digits.toList[p]? ≠ some e →
        ∃ err, parse (String.ofList (c.digits.toList.set p e)) = .error err) ∧
    parse "20000001007" = .ok ⟨"20000001007"⟩ ∧ parse "30000001007" = .ok ⟨"30000001007"⟩ ∧
    parse "02000200800" = .ok ⟨"02000200800"⟩ ∧ parse "02000000800" = .ok ⟨"02000000800"⟩ := by
  refine ⟨fun {raw c} h p hp e he hne => ?_, rfl, rfl, rfl, rfl⟩
  -- the digits of a parsed CPF: eleven of them, with both check digits right
  obtain ⟨hchk, hd⟩ := parse_eq_ok_iff.1 h
  obtain ⟨hlen, -, hc⟩ := check_eq_ok_iff.1 hchk
  rw [← hd] at hlen hc
  have hdig : ∀ x ∈ c.digits.toList, x.isDigit = true := fun x hx => isDigit_of_parse h hx
  cases hs : parse (String.ofList (c.digits.toList.set p e)) with
  | error err => exact ⟨err, rfl⟩
  | ok c' =>
    -- a changed text that parsed would have both check digits right
    obtain ⟨hchk', -⟩ := parse_eq_ok_iff.1 hs
    rw [values_normalize_set hdig he] at hchk'
    have hvals : ∀ x ∈ values c.digits, x < 10 := by
      simp only [values, List.mem_map]
      rintro _ ⟨x, hx, rfl⟩
      exact value_lt_ten (hdig x hx)
    exact absurd (check_eq_ok_iff.1 hchk').2.2
      (not_checksOut_set hlen hvals hc hp (value_lt_ten he) (values_getElem?_ne hdig he hne))

/-- The second digit of a valid CPF changed from 7 to 0 is caught. -/
theorem single_substitution_detected_second_digit :
    parse "17107972073" = .ok ⟨"17107972073"⟩ ∧ 1 ∈ [1, 2, 3, 4, 6, 7, 8, 9, 10] ∧ '0'.isDigit = true ∧
      "17107972073".toList[1]? ≠ some '0' ∧
      ∃ err, parse (String.ofList ("17107972073".toList.set 1 '0')) = .error err :=
  have h : parse "17107972073" = .ok ⟨"17107972073"⟩ := rfl
  ⟨h, by decide, rfl, by decide, single_substitution_detected.1 h 1 (by decide) '0' rfl (by decide)⟩

end AccountRegistry.Cpf
