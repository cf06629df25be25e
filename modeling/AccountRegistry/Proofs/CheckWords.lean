import AccountRegistry.Cpf.Words
import AccountRegistry.Proofs.CpfCheck
import Mathlib.Tactic.Ring

/-!
# The check never stops the machine

Run on the bytes of a normalized text in 8- and 32-bit words (`checkBytes`), the check has five
places where the machine could stop: the subtraction of `'0'` from each byte, each product and each
partial sum of a weighted sum, the splits at 9 and 10, and `11 - r` for the check digit. Only the
first can ever fire:

- a weighted sum is at most its largest digit times the sum of its weights, 65 for ten digits
  (`weightedSum_le_of_length_le`); the running sum in words is exact while the whole sum fits a word
  (`foldlM_weighted`), so the check digit in words is `checkDigit` (`checkDigitWords_spec`);
- the splits come after the length rule, on eleven digits (`checkWords_spec`);
- on bytes from `'0'` up the check gives `check`'s verdict (`checkBytes_of_le`), and a byte below
  `'0'` stops it (`checkBytes_of_lt`);
- normalization leaves only the codes of `'0'` to `'9'` (`utf8Bytes_normalize`), so `parse` and
  `validate` run in words give their own answers, for every input (`check_never_panics`).
-/

set_option autoImplicit false

namespace AccountRegistry.Cpf

open Word

/-! ## Weighted sums in words -/

/-- A weighted sum is at most the largest digit times the sum of the weights. -/
theorem weightedSum_le {ds : List Nat} {m : Nat} (h : ∀ d ∈ ds, d ≤ m) :
    weightedSum ds ≤ m * weightedSum (List.replicate ds.length 1) := by
  induction ds with
  | nil => simp [weightedSum]
  | cons d ds ih =>
    have hd : d * (ds.length + 2) ≤ m * (ds.length + 2) := Nat.mul_le_mul_right _ (h d (by simp))
    have ht := ih (fun x hx => h x (by simp [hx]))
    rw [List.length_cons, List.replicate_succ, weightedSum, weightedSum, List.length_replicate]
    calc d * (ds.length + 2) + weightedSum ds
        ≤ m * (ds.length + 2) + m * weightedSum (List.replicate ds.length 1) := Nat.add_le_add hd ht
      _ = m * (1 * (ds.length + 2) + weightedSum (List.replicate ds.length 1)) := by ring

/-- The weights of a body of at most ten digits add up to at most `11 + 10 + ⋯ + 2 = 65`. -/
theorem weightedSum_le_of_length_le {ds : List Nat} {m : Nat} (hlen : ds.length ≤ 10)
    (h : ∀ d ∈ ds, d ≤ m) : weightedSum ds ≤ m * 65 := by
  have hw : ∀ n ≤ 10, weightedSum (List.replicate n 1) ≤ 65 := by decide
  exact (weightedSum_le h).trans (Nat.mul_le_mul_left m (hw _ hlen))

/-- The running weighted sum in words is exact as long as the whole sum fits a word: then no
product and no partial sum leaves it. -/
theorem foldlM_weighted (ds : List UInt32) (acc : UInt32) (hlen : ds.length + 2 < UInt32.size)
    (h : acc.toNat + weightedSum (ds.map (·.toNat)) < UInt32.size) :
    ∃ s, (ds.zip (countdown (ds.length + 1).toUInt32)).foldlM
        (fun acc (d, w) => do add32 acc (← mul32 d w)) acc = .ok s ∧
      s.toNat = acc.toNat + weightedSum (ds.map (·.toNat)) := by
  induction ds generalizing acc with
  | nil => exact ⟨acc, rfl, by simp [weightedSum]⟩
  | cons d ds ih =>
    simp only [List.map_cons, weightedSum, List.length_map] at h
    rw [List.length_cons] at hlen
    have hw : ((ds.length + 2).toUInt32).toNat = ds.length + 2 := by
      rw [Nat.toUInt32_eq, UInt32.toNat_ofNat_of_lt' (show ds.length + 2 < UInt32.size by omega)]
    -- one step: the product and the new partial sum both fit, being parts of the whole sum
    obtain ⟨p, hp, hpv⟩ := mul32_of_lt (a := d) (b := (ds.length + 2).toUInt32) (by rw [hw]; omega)
    obtain ⟨a, ha, hav⟩ := add32_of_lt (a := acc) (b := p) (by rw [hpv, hw]; omega)
    obtain ⟨s, hs, hsv⟩ := ih a (by omega) (by rw [hav, hpv, hw]; omega)
    refine ⟨s, ?_, ?_⟩
    · rw [List.length_cons, show ds.length + 1 + 1 = ds.length + 2 by omega, countdown_succ (by omega),
        List.zip_cons_cons, List.foldlM_cons]
      simp only [hp, ha, bind, Except.bind]
      exact hs
    · rw [hsv, hav, hpv, hw, List.map_cons, weightedSum, List.length_map]
      omega

/-- The check digit in words is `checkDigit` whenever the weighted sum fits a word; `11 - r` is
then taken only of a remainder `r` from 2 to 10. -/
theorem checkDigitWords_spec (body : List UInt32) (hlen : body.length + 2 < UInt32.size)
    (hsum : weightedSum (body.map (·.toNat)) < UInt32.size) :
    ∃ w, checkDigitWords body = .ok w ∧ w.toNat = checkDigit (body.map (·.toNat)) := by
  have hl := toNat_ofLength (n := body.length) (by omega)
  obtain ⟨top, htop, htopv⟩ := add32_of_lt (a := ofLength body.length) (b := 1) (by rw [hl]; simp; omega)
  have htop' : top = (body.length + 1).toUInt32 := by
    apply UInt32.toNat_inj.mp
    rw [htopv, hl, Nat.toUInt32_eq, UInt32.toNat_ofNat_of_lt' (show body.length + 1 < UInt32.size by omega)]
    rfl
  obtain ⟨s, hs, hsv⟩ := foldlM_weighted body 0 hlen (by simpa using hsum)
  have hr : (s % 11).toNat = weightedSum (body.map (·.toNat)) % 11 := by
    rw [UInt32.toNat_mod, hsv]
    simp
  rw [checkDigitWords, bind_of_eq_ok htop, htop', bind_of_eq_ok hs]
  by_cases h2 : weightedSum (body.map (·.toNat)) % 11 < 2
  · refine ⟨0, ?_, ?_⟩
    · rw [if_pos (UInt32.lt_iff_toNat_lt.2 (by rw [hr]; simpa using h2))]
      rfl
    · simp [checkDigit, h2]
  · have hr11 : weightedSum (body.map (·.toNat)) % 11 < 11 := Nat.mod_lt _ (by decide)
    obtain ⟨w, hw, hwv⟩ := sub32_of_le (a := 11) (b := s % 11) (by rw [hr]; simp; omega)
    refine ⟨w, ?_, ?_⟩
    · rw [if_neg (fun h => h2 (by simpa [hr] using UInt32.lt_iff_toNat_lt.1 h))]
      exact hw
    · rw [hwv, hr]
      simp [checkDigit, h2]

/-! ## The rules in words -/

section Rules

variable {ds : List UInt32}

theorem getElem?_eq_some_iff_toNat {i : Nat} {w : UInt32} :
    ds[i]? = some w ↔ (ds.map (·.toNat))[i]? = some w.toNat := by
  rw [List.getElem?_map]
  cases ds[i]? <;> simp [UInt32.toNat_inj]

/-- The check digit in words of a prefix of byte-sized digit words is the check digit of its values. -/
theorem checkDigitWords_take (h : ∀ d ∈ ds, d.toNat < 2 ^ 8) {n : Nat} (hn : n ≤ 10) :
    ∃ w, checkDigitWords (ds.take n) = .ok w ∧ w.toNat = checkDigit ((ds.map (·.toNat)).take n) := by
  have hsum : weightedSum ((ds.take n).map (·.toNat)) ≤ 255 * 65 := by
    apply weightedSum_le_of_length_le (by simp; omega)
    simp only [List.mem_map]
    rintro _ ⟨d, hd, rfl⟩
    have := h d (List.mem_of_mem_take hd)
    omega
  have hsize : UInt32.size = 4294967296 := rfl
  rw [← List.map_take]
  exact checkDigitWords_spec _ (by simp; omega) (by omega)

/-- On byte-sized digit words the rules in words never stop and give `check`'s verdict. The splits
at 9 and 10 come after the length rule, so they are made only in eleven digits. -/
theorem checkWords_spec (h : ∀ d ∈ ds, d.toNat < 2 ^ 8) :
    checkWords ds = .ok (check (ds.map (·.toNat))) := by
  have hlen : (ds.map (·.toNat)).length = ds.length := List.length_map _
  rw [checkWords]
  by_cases hl : ds.length = 11
  swap
  · rw [if_pos hl, check_of_length_ne (by rwa [hlen]), hlen]
    rfl
  rw [if_neg (not_not.2 hl)]
  cases hs : allSame (ds.map (·.toNat))
  swap
  · rw [if_pos rfl, check_of_allSame (by rwa [hlen]) hs]
    rfl
  rw [if_neg (by simp)]
  obtain ⟨w₁, h₁, hv₁⟩ := checkDigitWords_take h (n := 9) (by omega)
  obtain ⟨w₂, h₂, hv₂⟩ := checkDigitWords_take h (n := 10) (by omega)
  rw [bind_of_eq_ok (splitAt_of_le (by omega))]
  dsimp only
  rw [bind_of_eq_ok h₁, bind_of_eq_ok (splitAt_of_le (by omega))]
  dsimp only
  rw [bind_of_eq_ok h₂]
  -- the words match at 9 and 10 exactly when the values do
  have hc : (ds[9]? = some w₁ ∧ ds[10]? = some w₂) ↔ ChecksOut (ds.map (·.toNat)) := by
    rw [getElem?_eq_some_iff_toNat, getElem?_eq_some_iff_toNat, hv₁, hv₂]
    rfl
  by_cases hco : ChecksOut (ds.map (·.toNat))
  · rw [if_pos (hc.2 hco), check_of_checksOut (by rwa [hlen]) hs hco]
    rfl
  · rw [if_neg (mt hc.1 hco), check_of_not_checksOut (by rwa [hlen]) hs hco]
    rfl

end Rules

/-! ## Bytes -/

section Bytes

variable {bs : List UInt8}

/-- A byte from `'0'` up becomes its digit word. -/
theorem digitWord_of_le {b : UInt8} (h : '0'.toUInt8 ≤ b) :
    (do pure (← sub8 b '0'.toUInt8).toUInt32 : Except Panic UInt32) = .ok (b - '0'.toUInt8).toUInt32 := by
  rw [sub8_of_le h]
  rfl

theorem mapM_digitWords (h : ∀ b ∈ bs, '0'.toUInt8 ≤ b) :
    bs.mapM (fun b => do pure (← sub8 b '0'.toUInt8).toUInt32) =
      .ok (bs.map fun b => (b - '0'.toUInt8).toUInt32) := by
  induction bs with
  | nil => rfl
  | cons b bs ih =>
    rw [List.mapM_cons, bind_of_eq_ok (digitWord_of_le (h b (by simp))),
      bind_of_eq_ok (ih fun x hx => h x (by simp [hx]))]
    rfl

/-- On bytes from `'0'` up the check never stops, and gives `check`'s verdict on the bytes less `'0'`. -/
theorem checkBytes_of_le (h : ∀ b ∈ bs, '0'.toUInt8 ≤ b) :
    checkBytes bs = .ok (check (bs.map fun b => b.toNat - '0'.toNat)) := by
  have hvals : (bs.map fun b => (b - '0'.toUInt8).toUInt32).map (·.toNat) = bs.map fun b => b.toNat - '0'.toNat := by
    rw [List.map_map]
    apply List.map_congr_left
    intro b hb
    simp only [Function.comp, UInt8.toNat_toUInt32, UInt8.toNat_sub_of_le _ _ (h b hb)]
    rfl
  have hsmall : ∀ d ∈ bs.map fun b => (b - '0'.toUInt8).toUInt32, d.toNat < 2 ^ 8 := by
    simp only [List.mem_map]
    rintro _ ⟨b, -, rfl⟩
    rw [UInt8.toNat_toUInt32]
    exact UInt8.toNat_lt _
  rw [checkBytes, bind_of_eq_ok (mapM_digitWords h), checkWords_spec hsmall, hvals]

/-- A byte below `'0'` stops the check at its subtraction. -/
theorem checkBytes_of_lt (h : ∃ b ∈ bs, b < '0'.toUInt8) : checkBytes bs = .error .subtractOverflow := by
  suffices hm : bs.mapM (fun b => do pure (← sub8 b '0'.toUInt8).toUInt32) = .error .subtractOverflow by
    rw [checkBytes, hm]
    rfl
  induction bs with
  | nil => simp at h
  | cons b bs ih =>
    rw [List.mapM_cons]
    by_cases hb : '0'.toUInt8 ≤ b
    · -- the first byte passes, so the low one is further on
      obtain ⟨x, hx, hlt⟩ := h
      have hx' : x ∈ bs := by
        rcases List.mem_cons.1 hx with rfl | hx'
        · exact absurd (UInt8.lt_iff_toNat_lt.1 hlt) (by rw [UInt8.le_iff_toNat_le] at hb; omega)
        · exact hx'
      rw [bind_of_eq_ok (digitWord_of_le hb), ih ⟨x, hx', hlt⟩]
      rfl
    · rw [sub8, if_neg hb]
      rfl

end Bytes

/-! ## Normalized texts -/

theorem toNat_le_of_isDigit {c : Char} (h : c.isDigit = true) : c.toNat ≤ 57 := by
  have hc := Char.isDigit_iff_toNat.1 h
  have : '9'.toNat = 57 := rfl
  omega

/-- The bytes of a text of ASCII digits are the digits' codes, one each. -/
theorem utf8Bytes_ofList_digits {l : List Char} (h : ∀ c ∈ l, c.isDigit = true) :
    utf8Bytes (String.ofList l) = l.map fun c => c.val.toUInt8 := by
  rw [utf8Bytes, String.toByteArray_ofList, List.utf8Encode, List.toList_data_toByteArray]
  induction l with
  | nil => rfl
  | cons c l ih =>
    have hc := toNat_le_of_isDigit (h c (by simp))
    have h1 : c.utf8Size = 1 := Char.utf8Size_eq_one_iff.2 (by
      rw [UInt32.le_iff_toNat_le]
      change c.toNat ≤ 127
      omega)
    rw [List.flatMap_cons, String.utf8EncodeChar_eq_singleton h1, ih fun x hx => h x (by simp [hx])]
    rfl

/-- Every byte of a normalized text is the code of a digit, `'0'` to `'9'`, and the bytes less `'0'`
are the text's digit values. -/
theorem utf8Bytes_normalize (raw : String) :
    (∀ b ∈ utf8Bytes (normalize raw), '0'.toUInt8 ≤ b ∧ b ≤ '9'.toUInt8) ∧
    (utf8Bytes (normalize raw)).map (fun b => b.toNat - '0'.toNat) = values (normalize raw) := by
  have hdig : ∀ c ∈ raw.toList.filter Char.isDigit, c.isDigit = true := fun c hc => (List.mem_filter.1 hc).2
  have hcode : ∀ c : Char, c.isDigit = true → c.val.toUInt8.toNat = c.toNat := by
    intro c hc
    have := toNat_le_of_isDigit hc
    rw [UInt32.toNat_toUInt8]
    exact Nat.mod_eq_of_lt (by change c.toNat < 2 ^ 8; omega)
  rw [normalize, utf8Bytes_ofList_digits hdig]
  refine ⟨?_, ?_⟩
  · simp only [List.mem_map]
    rintro _ ⟨c, hc, rfl⟩
    rw [UInt8.le_iff_toNat_le, UInt8.le_iff_toNat_le, hcode c (hdig c hc)]
    exact Char.isDigit_iff_toNat.1 (hdig c hc)
  · rw [values, String.toList_ofList, List.map_map]
    apply List.map_congr_left
    intro c hc
    simp only [Function.comp, hcode c (hdig c hc)]

theorem checkBytes_normalize (raw : String) :
    checkBytes (utf8Bytes (normalize raw)) = .ok (check (values (normalize raw))) := by
  obtain ⟨hb, hv⟩ := utf8Bytes_normalize raw
  rw [checkBytes_of_le fun b h => (hb b h).1, hv]

/-- **`parse` and `validate` never stop the machine**: every digit code is in range, the weighted
sums are at most `585`, and run in words both give their own answers. -/
theorem check_never_panics (raw : String) :
    (∀ b ∈ utf8Bytes (normalize raw), '0'.toUInt8 ≤ b ∧ b ≤ '9'.toUInt8) ∧
    weightedSum ((values (normalize raw)).take 9) ≤ 585 ∧
    weightedSum ((values (normalize raw)).take 10) ≤ 585 ∧
    parseBytes raw = .ok (parse raw) ∧ validateBytes raw = .ok (validate raw) := by
  obtain ⟨hb, hv⟩ := utf8Bytes_normalize raw
  have hdig : ∀ d ∈ values (normalize raw), d ≤ 9 := by
    rw [← hv]
    simp only [List.mem_map]
    rintro _ ⟨b, hmem, rfl⟩
    have := UInt8.le_iff_toNat_le.1 (hb b hmem).2
    exact Nat.sub_le_of_le_add this
  have hbody : ∀ n ≤ 10, weightedSum ((values (normalize raw)).take n) ≤ 585 := fun n hn =>
    weightedSum_le_of_length_le (m := 9) (by simp; omega) fun d hd => hdig d (List.mem_of_mem_take hd)
  refine ⟨hb, hbody 9 (by omega), hbody 10 (by omega), ?_, ?_⟩
  · rw [parseBytes, bind_of_eq_ok (checkBytes_normalize raw), parse]
    cases check (values (normalize raw)) <;> rfl
  · rw [validateBytes, bind_of_eq_ok (checkBytes_normalize raw), validate]
    cases check (values (normalize raw)) <;> rfl

end AccountRegistry.Cpf
