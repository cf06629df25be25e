import AccountRegistry.Cpf
import Mathlib.Algebra.BigOperators.Intervals
import Mathlib.Tactic.IntervalCases

/-!
# The tax-id check

`Cpf.parse` keeps the ASCII digits of its input and then applies three rules in turn. This file
pins the rules down:

- normalization keeps exactly the characters `'0'..'9'`, in order, and is idempotent
  (`toList_normalize`, `normalize_normalize`);
- the check digit "a remainder below 2 gives 0, else 11 less the remainder" over the weights
  `n + 1, …, 2` is the textbook digit "ten times the weighted sum modulo 11, 10 read as 0"
  (`checkDigit_eq_textbook`); the two differ only in how they name the residue class of `-s`;
- `check` has exactly four outcomes, tried in a fixed order (`check_cases`), and `parse` passes
  them through (`parse_eq_error_iff`, `parse_eq_ok_iff`);
- the whole verdict, in the terms of the input's digit characters (`parse_verdict`).
-/

set_option autoImplicit false

namespace AccountRegistry.Cpf

/-! ## Normalization -/

section Normalization

variable {raw : String}

theorem isDigit_iff_between (c : Char) : c.isDigit = true ↔ '0' ≤ c ∧ c ≤ '9' := by
  simp [Char.isDigit, Char.le_def]

theorem toList_normalize (raw : String) :
    (normalize raw).toList = raw.toList.filter fun c => '0' ≤ c ∧ c ≤ '9' := by
  simp only [normalize, String.toList_ofList]
  exact List.filter_congr fun c _ => Bool.eq_iff_iff.mpr (by simp [isDigit_iff_between])

theorem isDigit_of_mem_normalize {c : Char} (h : c ∈ (normalize raw).toList) : c.isDigit = true := by
  simp only [normalize, String.toList_ofList, List.mem_filter] at h
  exact h.2

theorem normalize_normalize (raw : String) : normalize (normalize raw) = normalize raw := by
  simp only [normalize, String.toList_ofList, List.filter_filter, Bool.and_self]

theorem length_values (s : String) : (values s).length = s.length := by
  simp [values, String.length]

end Normalization

/-! ## Check digits -/

/-- The textbook check digit of a body: ten times the weighted sum modulo 11, with 10 read as 0. -/
def textbookCheckDigit (b : List Nat) : Nat :=
  10 * (∑ i ∈ Finset.range b.length, b.getD i 0 * (b.length + 1 - i)) % 11 % 10

theorem weightedSum_eq_sum : ∀ b : List Nat,
    weightedSum b = ∑ i ∈ Finset.range b.length, b.getD i 0 * (b.length + 1 - i)
  | [] => rfl
  | d :: ds => by
    rw [weightedSum, weightedSum_eq_sum ds, List.length_cons, Finset.sum_range_succ', add_comm]
    simp only [List.getD_cons_succ, List.getD_cons_zero]
    congr 1
    apply Finset.sum_congr rfl
    intro i _
    congr 1
    omega

/-- Both digits name the residue of `-s` modulo 11 by a digit, and the residue `10` (from a
remainder of 1) by 0. -/
theorem remainder_digit (s : Nat) : (if s % 11 < 2 then 0 else 11 - s % 11) = 10 * s % 11 % 10 := by
  have h : 10 * s % 11 = 10 * (s % 11) % 11 := by simp [Nat.mul_mod]
  have hr : s % 11 < 11 := Nat.mod_lt _ (by omega)
  rw [h]
  generalize s % 11 = r at hr ⊢
  interval_cases r <;> rfl

theorem checkDigit_eq_textbook (b : List Nat) : checkDigit b = textbookCheckDigit b := by
  rw [checkDigit, textbookCheckDigit, ← weightedSum_eq_sum]
  exact remainder_digit _

/-! ## The rules and their order -/

section Verdict

variable {ds : List Nat}

theorem allSame_iff : allSame ds = true ↔ ∀ a ∈ ds, ∀ b ∈ ds, a = b := by
  cases ds with
  | nil => simp [allSame]
  | cons d ds =>
    simp only [allSame, List.all_eq_true, beq_iff_eq, List.mem_cons]
    constructor
    · rintro h a (rfl | ha) b (rfl | hb)
      · rfl
      · exact (h b hb).symm
      · exact h a ha
      · rw [h a ha, h b hb]
    · intro h x hx
      exact h x (.inr hx) d (.inl rfl)

/-- Both check digits of eleven digit values are right. -/
def ChecksOut (ds : List Nat) : Prop :=
  ds[9]? = some (checkDigit (ds.take 9)) ∧ ds[10]? = some (checkDigit (ds.take 10))

theorem check_of_length_ne (h : ds.length ≠ 11) : check ds = .error (.wrongLength ds.length) := if_pos h

theorem check_of_allSame (h : ds.length = 11) (hs : allSame ds = true) : check ds = .error .repeatedDigits := by
  rw [check, if_neg (not_not.mpr h), if_pos hs]

theorem check_of_checksOut (h : ds.length = 11) (hs : allSame ds = false) (hc : ChecksOut ds) :
    check ds = .ok () := by
  unfold ChecksOut at hc
  rw [check, if_neg (not_not.mpr h), if_neg (by simp [hs]), if_pos hc]

theorem check_of_not_checksOut (h : ds.length = 11) (hs : allSame ds = false) (hc : ¬ ChecksOut ds) :
    check ds = .error .checksumMismatch := by
  unfold ChecksOut at hc
  rw [check, if_neg (not_not.mpr h), if_neg (by simp [hs]), if_neg hc]

/-- The four outcomes of the check, in the order its rules are tried. -/
theorem check_cases (ds : List Nat) :
    (ds.length ≠ 11 ∧ check ds = .error (.wrongLength ds.length)) ∨
    (ds.length = 11 ∧ allSame ds = true ∧ check ds = .error .repeatedDigits) ∨
    (ds.length = 11 ∧ allSame ds = false ∧ ¬ ChecksOut ds ∧ check ds = .error .checksumMismatch) ∨
    (ds.length = 11 ∧ allSame ds = false ∧ ChecksOut ds ∧ check ds = .ok ()) := by
  by_cases h : ds.length = 11
  · cases hs : allSame ds
    · by_cases hc : ChecksOut ds
      · exact .inr (.inr (.inr ⟨h, rfl, hc, check_of_checksOut h hs hc⟩))
      · exact .inr (.inr (.inl ⟨h, rfl, hc, check_of_not_checksOut h hs hc⟩))
    · exact .inr (.inl ⟨h, rfl, check_of_allSame h hs⟩)
  · exact .inl ⟨h, check_of_length_ne h⟩

theorem check_eq_ok_iff : check ds = .ok () ↔ ds.length = 11 ∧ allSame ds = false ∧ ChecksOut ds := by
  rcases check_cases ds with ⟨h, e⟩ | ⟨h, hs, e⟩ | ⟨h, hs, hc, e⟩ | ⟨h, hs, hc, e⟩ <;> simp_all

theorem check_eq_wrongLength_iff {n : Nat} :
    check ds = .error (.wrongLength n) ↔ ds.length ≠ 11 ∧ ds.length = n := by
  rcases check_cases ds with ⟨h, e⟩ | ⟨h, hs, e⟩ | ⟨h, hs, hc, e⟩ | ⟨h, hs, hc, e⟩ <;> simp_all

theorem check_eq_repeatedDigits_iff : check ds = .error .repeatedDigits ↔ ds.length = 11 ∧ allSame ds = true := by
  rcases check_cases ds with ⟨h, e⟩ | ⟨h, hs, e⟩ | ⟨h, hs, hc, e⟩ | ⟨h, hs, hc, e⟩ <;> simp_all

theorem check_eq_checksumMismatch_iff :
    check ds = .error .checksumMismatch ↔ ds.length = 11 ∧ allSame ds = false ∧ ¬ ChecksOut ds := by
  rcases check_cases ds with ⟨h, e⟩ | ⟨h, hs, e⟩ | ⟨h, hs, hc, e⟩ | ⟨h, hs, hc, e⟩ <;> simp_all

theorem parse_eq_error_iff {raw : String} {e : CpfError} :
    parse raw = .error e ↔ check (values (normalize raw)) = .error e := by
  dsimp only [parse]
  cases check (values (normalize raw)) <;> simp

theorem parse_eq_ok_iff {raw : String} {c : Cpf} :
    parse raw = .ok c ↔ check (values (normalize raw)) = .ok () ∧ c.digits = normalize raw := by
  dsimp only [parse]
  cases check (values (normalize raw)) with
  | error e => simp
  | ok u => cases c; simp [eq_comm]

/-- Parsing reads the ASCII digits only. -/
theorem parse_congr {s s' : String} (h : normalize s = normalize s') : parse s = parse s' := by
  simp only [parse, h]

/-- A parsed tax id is in normal form: its digits parse back to it. -/
theorem parse_digits {raw : String} {c : Cpf} (h : parse raw = .ok c) : parse c.digits = .ok c := by
  obtain ⟨-, hd⟩ := parse_eq_ok_iff.1 h
  have hn : normalize c.digits = normalize raw := by rw [hd, normalize_normalize]
  rw [parse_congr hn, h]

/-- Every text whose digits are those of a valid tax id parses to it. -/
theorem parse_of_normalize_eq {s : String} {c : Cpf} (hv : parse c.digits = .ok c) (hs : normalize s = c.digits) :
    parse s = .ok c := by
  obtain ⟨-, hd⟩ := parse_eq_ok_iff.1 hv
  rw [parse_congr (hs.trans hd), hv]

end Verdict

/-! ## Digits and their values -/

section Values

variable {s : String}

/-- On digits, equal values mean equal characters. -/
theorem digit_value_inj {a b : Char} (ha : a.isDigit = true) (hb : b.isDigit = true)
    (h : a.toNat - '0'.toNat = b.toNat - '0'.toNat) : a = b := by
  rw [Char.isDigit_iff_toNat] at ha hb
  exact Char.toNat_inj.mp (by omega)

theorem allSame_values_iff (hs : ∀ c ∈ s.toList, c.isDigit = true) :
    allSame (values s) = true ↔ ∀ a ∈ s.toList, ∀ b ∈ s.toList, a = b := by
  simp only [allSame_iff, values, List.mem_map, forall_exists_index, and_imp, forall_apply_eq_imp_iff₂]
  exact ⟨fun h a ha b hb => digit_value_inj (hs a ha) (hs b hb) (h a ha b hb),
    fun h a ha b hb => by rw [h a ha b hb]⟩

theorem checksOut_iff_textbook {ds : List Nat} :
    ChecksOut ds ↔ ds[9]? = some (textbookCheckDigit (ds.take 9)) ∧
      ds[10]? = some (textbookCheckDigit (ds.take 10)) := by
  simp only [ChecksOut, checkDigit_eq_textbook]

end Values

/-- **The verdict on a tax id**: only its ASCII digits count and the first rule they break is
reported; `validate` gives the same digits and the same verdict. -/
theorem parse_verdict (raw : String) :
    (normalize raw).toList = raw.toList.filter (fun c => '0' ≤ c ∧ c ≤ '9') ∧
    let d := normalize raw
    let v := values d
    (parse raw = .error (.wrongLength d.length) ↔ d.length ≠ 11) ∧
    (parse raw = .error .repeatedDigits ↔ d.length = 11 ∧ ∀ a ∈ d.toList, ∀ b ∈ d.toList, a = b) ∧
    (parse raw = .error .checksumMismatch ↔ d.length = 11 ∧ (∃ a ∈ d.toList, ∃ b ∈ d.toList, a ≠ b) ∧
      (v[9]? ≠ some (textbookCheckDigit (v.take 9)) ∨ v[10]? ≠ some (textbookCheckDigit (v.take 10)))) ∧
    (∀ c, parse raw = .ok c ↔ d.length = 11 ∧ (∃ a ∈ d.toList, ∃ b ∈ d.toList, a ≠ b) ∧
      v[9]? = some (textbookCheckDigit (v.take 9)) ∧ v[10]? = some (textbookCheckDigit (v.take 10)) ∧
      c.digits = d) ∧
    validate raw = (d, (parse raw).isOk) := by
  refine ⟨toList_normalize raw, ?_⟩
  intro d v
  have hlen : v.length = d.length := length_values d
  have hsame : allSame v = true ↔ ∀ a ∈ d.toList, ∀ b ∈ d.toList, a = b :=
    allSame_values_iff fun _ => isDigit_of_mem_normalize
  have hdiff : allSame v = false ↔ ∃ a ∈ d.toList, ∃ b ∈ d.toList, a ≠ b := by
    rw [← Bool.not_eq_true, hsame]
    simp
  refine ⟨?_, ?_, ?_, ?_, ?_⟩
  · rw [parse_eq_error_iff, check_eq_wrongLength_iff, hlen]
    simp
  · rw [parse_eq_error_iff, check_eq_repeatedDigits_iff, hlen, hsame]
  · rw [parse_eq_error_iff, check_eq_checksumMismatch_iff, hlen, hdiff, checksOut_iff_textbook, not_and_or]
  · intro c
    rw [parse_eq_ok_iff, check_eq_ok_iff, hlen, hdiff, checksOut_iff_textbook]
    simp only [and_assoc]
    rfl
  · simp only [validate, parse]
    cases check (values (normalize raw)) <;> rfl

example : parse "171.079.720-73" = .ok ⟨"17107972073"⟩ := rfl

example : parse "172.079.720-73" = .error .checksumMismatch := rfl

end AccountRegistry.Cpf
