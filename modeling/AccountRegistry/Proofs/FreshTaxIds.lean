import AccountRegistry.Cpf.Generate
import AccountRegistry.Proofs.CpfCheck

/-!
# Tax ids made from random bytes are valid

`fromBytes` writes its own check digits, by the formula "ten times the weighted sum modulo 11,
10 read as 0", while `parse` checks them by "a remainder below 2 gives 0, else 11 less the
remainder". This file shows that every UUID gives a tax id that parses to itself:

- the generator's running sum over the zipped weights is the weighted sum of the check, and its
  digit is the check's (`foldl_weighted`, `generatedCheckDigit_eq_checkDigit`);
- a repeated body loses its repetition when its first digit is advanced (`allSame_breakRepetition`),
  and a body that is not a repetition keeps the eleven digits from being one;
- digits below ten are written one character each, so the text reads back as the same digit
  values (`toList_decimalText`, `values_decimalText`);
- any nine-digit body that is not a repetition, completed by the generator, parses
  (`parse_decimalText_withCheckDigits`), and the bytes of every UUID give such a body
  (`bodyOfBytes_spec`, `parse_fromBytes`).
-/

set_option autoImplicit false

namespace AccountRegistry.Cpf

/-! ## The generator's check digit -/

/-- The generator's running sum, over the weights `n + 1, …, 2` zipped to a body of length `n`,
adds the body's weighted sum to the start value. -/
theorem foldl_weighted (ds : List Nat) (a : Nat) :
    (ds.zip ((List.range ds.length).map fun i => ds.length + 1 - i)).foldl
      (fun acc (d, w) => acc + d * w) a = a + weightedSum ds := by
  induction ds generalizing a with
  | nil => simp [weightedSum]
  | cons d ds ih =>
    -- the weights of a longer body start with its head's weight and go on as the tail's
    have hw : (List.range (ds.length + 1)).map (fun i => ds.length + 1 + 1 - i) =
        (ds.length + 2) :: (List.range ds.length).map (fun i => ds.length + 1 - i) := by
      rw [List.range_succ_eq_map, List.map_cons, List.map_map]
      congr 1
      apply List.map_congr_left
      intro i _
      simp only [Function.comp, Nat.succ_eq_add_one]
      omega
    rw [List.length_cons, hw, List.zip_cons_cons, List.foldl_cons, ih, weightedSum]
    dsimp only
    omega

/-- The two check-digit formulas agree on every body: both name the residue of minus the
weighted sum by a digit, and the residue 10 by 0. -/
theorem generatedCheckDigit_eq_checkDigit (ds : List Nat) : generatedCheckDigit ds = checkDigit ds := by
  have hc : checkDigit ds = 10 * weightedSum ds % 11 % 10 := remainder_digit _
  have hr : 10 * weightedSum ds % 11 < 11 := Nat.mod_lt _ (by decide)
  rw [hc, generatedCheckDigit]
  simp only [foldl_weighted, Nat.zero_add, Nat.mul_comm (weightedSum ds) 10]
  split <;> omega

theorem checkDigit_lt_ten (b : List Nat) : checkDigit b < 10 := by
  have hr : weightedSum b % 11 < 11 := Nat.mod_lt _ (by decide)
  simp only [checkDigit]
  split <;> omega

/-! ## Breaking a repetition -/

theorem allSame_of_allSame_append {l₁ l₂ : List Nat} (h : allSame (l₁ ++ l₂) = true) : allSame l₁ = true := by
  rw [allSame_iff] at h ⊢
  intro a ha b hb
  exact h a (List.mem_append_left _ ha) b (List.mem_append_left _ hb)

theorem length_breakRepetition (ds : List Nat) : (breakRepetition ds).length = ds.length := by
  cases ds with
  | nil => rfl
  | cons d t => rw [breakRepetition]; split <;> rfl

theorem lt_ten_of_mem_breakRepetition {ds : List Nat} (hd : ∀ d ∈ ds, d < 10) :
    ∀ d ∈ breakRepetition ds, d < 10 := by
  cases ds with
  | nil => simp [breakRepetition]
  | cons d t =>
    rw [breakRepetition]
    split
    · rintro x (_ | ⟨_, hx⟩)
      · exact Nat.mod_lt _ (by decide)
      · exact hd x (.tail _ hx)
    · exact hd

/-- Two or more digits are no longer all equal once a repetition is broken: the advanced first
digit differs from the second, which is the old first. -/
theorem allSame_breakRepetition {ds : List Nat} (h2 : 2 ≤ ds.length) (hd : ∀ d ∈ ds, d < 10) :
    allSame (breakRepetition ds) = false := by
  match ds, h2 with
  | d :: e :: t, _ =>
    by_cases hs : allSame (d :: e :: t)
    · have he : e = d := by simpa using (allSame_iff.1 hs) e (by simp) d (by simp)
      have hd' : d < 10 := hd d (by simp)
      rw [breakRepetition, if_pos hs]
      simp [allSame, he]
      omega
    · rw [breakRepetition, if_neg hs]
      simpa using hs

/-! ## Writing the digits -/

/-- A digit below ten is written as one character, `0` to `9`, whose value is the digit. -/
theorem digitChar_spec : ∀ d, d < 10 → (Nat.digitChar d).isDigit = true ∧ (Nat.digitChar d).toNat - '0'.toNat = d := by
  decide

theorem toList_toString_of_lt {d : Nat} (h : d < 10) : (toString d).toList = [d.digitChar] := by
  simp [toString, Nat.repr, Nat.toDigits_of_lt_base h]

theorem toList_decimalText {ds : List Nat} (h : ∀ d ∈ ds, d < 10) :
    (decimalText ds).toList = ds.map Nat.digitChar := by
  rw [decimalText, String.toList_join, List.flatMap_map]
  induction ds with
  | nil => rfl
  | cons d ds ih =>
    rw [List.flatMap_cons, toList_toString_of_lt (h d (by simp)), ih fun x hx => h x (by simp [hx])]
    rfl

theorem normalize_decimalText {ds : List Nat} (h : ∀ d ∈ ds, d < 10) :
    normalize (decimalText ds) = decimalText ds := by
  apply String.toList_inj.mp
  rw [normalize, String.toList_ofList, toList_decimalText h, List.filter_eq_self]
  simp only [List.mem_map]
  rintro _ ⟨d, hd, rfl⟩
  exact (digitChar_spec d (h d hd)).1

theorem values_decimalText {ds : List Nat} (h : ∀ d ∈ ds, d < 10) : values (decimalText ds) = ds := by
  rw [values, toList_decimalText h, List.map_map]
  conv => rhs; rw [← List.map_id ds]
  apply List.map_congr_left
  intro d hd
  exact (digitChar_spec d (h d hd)).2

/-! ## Completed bodies -/

theorem withCheckDigits_length (body : List Nat) : (withCheckDigits body).length = body.length + 2 := by
  simp [withCheckDigits]

theorem checksOut_withCheckDigits {body : List Nat} (h : body.length = 9) : ChecksOut (withCheckDigits body) := by
  -- the first check digit stands right after the body, and the second right after it
  have h₉ : (withCheckDigits body).take 9 = body := by
    simp [withCheckDigits, h]
  have h₁₀ : (withCheckDigits body).take 10 = body ++ [generatedCheckDigit body] := by
    simp [withCheckDigits, List.take_append, h]
  rw [ChecksOut, h₉, h₁₀]
  simp [withCheckDigits, h, generatedCheckDigit_eq_checkDigit]

/-- A nine-digit body that is not a repetition, followed by the generator's check digits, is a
tax id in normal form. -/
theorem parse_decimalText_withCheckDigits {body : List Nat} (hlen : body.length = 9)
    (hd : ∀ d ∈ body, d < 10) (hs : allSame body = false) :
    parse (decimalText (withCheckDigits body)) = .ok ⟨decimalText (withCheckDigits body)⟩ := by
  have hdig : ∀ d ∈ withCheckDigits body, d < 10 := by
    simp only [withCheckDigits, List.mem_append, List.mem_singleton, generatedCheckDigit_eq_checkDigit]
    rintro d ((hb | rfl) | rfl)
    · exact hd d hb
    · exact checkDigit_lt_ten _
    · exact checkDigit_lt_ten _
  have hsame : allSame (withCheckDigits body) = false := by
    rw [Bool.eq_false_iff]
    intro h
    rw [withCheckDigits, List.append_assoc] at h
    exact absurd (allSame_of_allSame_append h) (by simp [hs])
  rw [parse_eq_ok_iff, normalize_decimalText hdig, values_decimalText hdig, check_eq_ok_iff,
    withCheckDigits_length, hlen]
  exact ⟨⟨rfl, hsame, checksOut_withCheckDigits hlen⟩, rfl⟩

/-! ## Bodies from bytes -/

/-- The body made from a UUID has nine digits, not all equal. -/
theorem bodyOfBytes_spec (uuid : Vector UInt8 16) :
    (bodyOfBytes uuid).length = 9 ∧ (∀ d ∈ bodyOfBytes uuid, d < 10) ∧ allSame (bodyOfBytes uuid) = false := by
  have hlen : ((uuid.toList.take 9).map (·.toNat % 10)).length = 9 := by simp
  have hd : ∀ d ∈ (uuid.toList.take 9).map (·.toNat % 10), d < 10 := by
    simp only [List.mem_map]
    rintro _ ⟨b, -, rfl⟩
    exact Nat.mod_lt _ (by decide)
  unfold bodyOfBytes
  exact ⟨(length_breakRepetition _).trans hlen, lt_ten_of_mem_breakRepetition hd,
    allSame_breakRepetition (by omega) hd⟩

/-- **Every UUID gives a valid tax id.** The text made from any sixteen bytes parses, and the
parsed tax id is that text. -/
theorem parse_fromBytes (uuid : Vector UInt8 16) : parse (fromBytes uuid) = .ok ⟨fromBytes uuid⟩ := by
  obtain ⟨hlen, hd, hs⟩ := bodyOfBytes_spec uuid
  exact parse_decimalText_withCheckDigits hlen hd hs

end AccountRegistry.Cpf
