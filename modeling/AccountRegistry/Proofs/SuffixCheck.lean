import Mathlib
import AccountRegistry.Config

/-!
# Placeholder patterns are found in any letter case

`checkSuffix` lowers a password suffix with the full lowercase mapping and looks for each
placeholder pattern in the result. That mapping is not ASCII case folding: the Kelvin sign lowers
to `k`, and the capital I with a dot above to an `i` followed by a combining dot. For the
placeholder patterns the two searches still agree. A pattern of ASCII characters with no `k`, not
ending in `i`, occurs in a lowered text exactly where it occurs in the text with only its ASCII
letters lowered (`infix_flatMap_lowerChar_iff`): every other character lowers outside ASCII, or to
an `i` that the combining dot follows, which no such pattern can match.

`checkSuffix_verdict` then gives the whole verdict of the check: too short, counted in bytes; else
the first pattern in list order that occurs when ASCII case is ignored; else accepted.
-/

set_option autoImplicit false

namespace AccountRegistry

open Text

/-! ## ASCII case folding -/

/-- ASCII case folding leaves every character outside ASCII as it is. -/
theorem toLower_of_le {c : Char} (h : 128 ≤ c.toNat) : c.toLower = c := by
  unfold Char.toLower
  rw [dif_neg]
  rintro ⟨-, hz⟩
  have hz' := UInt32.le_iff_toNat_le.1 hz
  have hZ : ('Z'.val).toNat = 90 := rfl
  have hc : c.toNat = c.val.toNat := rfl
  omega

/-- `p` occurs in `s` when ASCII letters are compared without regard to case: some run of
characters of `s` equals `p` once the ASCII letters of both are lowered. -/
def OccursIgnoringAsciiCase (p s : String) : Prop :=
  p.toList.map Char.toLower <:+: s.toList.map Char.toLower

instance (p s : String) : Decidable (OccursIgnoringAsciiCase p s) :=
  inferInstanceAs (Decidable (_ <:+: _))

/-! ## Patterns that lowering finds where case folding does -/

/-- A pattern of ASCII characters with no `k` that does not end in `i`. -/
structure FoldSafe (p : List Char) : Prop where
  ascii : ∀ x ∈ p, x.toNat < 128
  no_k : 'k' ∉ p
  last_ne_i : p.getLast? ≠ some 'i'

instance (p : List Char) : Decidable (FoldSafe p) :=
  decidable_of_iff ((p.all fun x => x.toNat < 128) = true ∧ 'k' ∉ p ∧ p.getLast? ≠ some 'i')
    ⟨fun ⟨a, k, i⟩ => ⟨by simpa using a, k, i⟩, fun ⟨a, k, i⟩ => ⟨by simpa using a, k, i⟩⟩

theorem FoldSafe.tail {x : Char} {p : List Char} (h : FoldSafe (x :: p)) : FoldSafe p where
  ascii y hy := h.ascii y (.tail _ hy)
  no_k hk := h.no_k (.tail _ hk)
  last_ne_i := by
    cases p with
    | nil => simp
    | cons y p => simpa [List.getLast?_cons_cons] using h.last_ne_i

section
variable {x : Char} {p : List Char}

/-- A pattern does not start at a character outside ASCII once it is case folded. -/
theorem not_prefix_toLower_cons (hp : FoldSafe (x :: p)) {c : Char} (hc : 128 ≤ c.toNat)
    (rest : List Char) : ¬ (x :: p <+: c.toLower :: rest) := by
  rw [List.cons_prefix_cons, toLower_of_le hc]
  rintro ⟨rfl, -⟩
  have := hp.ascii x (.head _)
  omega

/-- Nor does it start at one that is lowered: that gives a `k`, which it lacks, an `i` and a
combining dot, which it cannot go on with, or one character outside ASCII. -/
theorem not_prefix_lowerChar_append (hp : FoldSafe (x :: p)) {c : Char} (hc : 128 ≤ c.toNat)
    (rest : List Char) : ¬ (x :: p <+: lowerChar c ++ rest) := by
  have hx : x.toNat < 128 := hp.ascii x (.head _)
  rcases lowerChar_cases c with ⟨hlt, -⟩ | ⟨-, hlow⟩ | ⟨-, hlow⟩ | ⟨-, d, hd, hlow⟩
  · omega
  · rw [hlow, List.singleton_append, List.cons_prefix_cons]
    rintro ⟨rfl, -⟩
    exact hp.no_k (.head _)
  · rw [hlow, List.cons_append, List.cons_append, List.nil_append, List.cons_prefix_cons]
    rintro ⟨rfl, hrest⟩
    cases p with
    | nil => exact hp.last_ne_i rfl
    | cons y p =>
      obtain ⟨rfl, -⟩ := List.cons_prefix_cons.1 hrest
      have := hp.ascii _ (.tail _ (.head _))
      exact absurd this (by decide)
  · rw [hlow, List.singleton_append, List.cons_prefix_cons]
    rintro ⟨rfl, -⟩
    omega

end

variable {p : List Char}

/-- A safe pattern starts a lowered text exactly when it starts the case-folded text. -/
theorem prefix_flatMap_lowerChar_iff (hp : FoldSafe p) (s : List Char) :
    p <+: s.flatMap lowerChar ↔ p <+: s.map Char.toLower := by
  induction s generalizing p with
  | nil => simp
  | cons c s ih =>
    cases p with
    | nil => simp
    | cons x p =>
      rw [List.flatMap_cons, List.map_cons]
      by_cases hc : c.toNat < 128
      · -- an ASCII character is lowered as it is folded
        rw [lowerChar, if_pos hc, List.singleton_append, List.cons_prefix_cons,
          List.cons_prefix_cons, ih hp.tail]
      · exact iff_of_false (not_prefix_lowerChar_append hp (by omega) _)
          (not_prefix_toLower_cons hp (by omega) _)

/-- A safe pattern occurs in a lowered character followed by more text only from that
character's start or within the rest: the combining dot of a lowered capital I starts no
pattern. -/
theorem infix_lowerChar_append_iff (hp : FoldSafe p) (c : Char) (rest : List Char) :
    p <:+: lowerChar c ++ rest ↔ p <+: lowerChar c ++ rest ∨ p <:+: rest := by
  rcases lowerChar_cases c with ⟨-, hlow⟩ | ⟨-, hlow⟩ | ⟨-, hlow⟩ | ⟨-, d, -, hlow⟩
  · rw [hlow, List.singleton_append, List.infix_cons_iff]
  · rw [hlow, List.singleton_append, List.infix_cons_iff]
  · rw [hlow, List.cons_append, List.cons_append, List.nil_append, List.infix_cons_iff,
      List.infix_cons_iff]
    cases p with
    | nil => simp
    | cons x p =>
      -- the pattern starts with an ASCII character, never with the combining dot
      have hdot : ¬ (x :: p <+: '\u0307' :: rest) := by
        rw [List.cons_prefix_cons]
        rintro ⟨rfl, -⟩
        exact absurd (hp.ascii _ (.head _)) (by decide)
      simp only [hdot, false_or]
  · rw [hlow, List.singleton_append, List.infix_cons_iff]

/-- **Lowering finds a safe pattern exactly where case folding does.** -/
theorem infix_flatMap_lowerChar_iff (hp : FoldSafe p) (s : List Char) :
    p <:+: s.flatMap lowerChar ↔ p <:+: s.map Char.toLower := by
  induction s with
  | nil => simp
  | cons c s ih =>
    rw [List.flatMap_cons, infix_lowerChar_append_iff hp, ← List.flatMap_cons,
      prefix_flatMap_lowerChar_iff hp, ih, List.map_cons, List.infix_cons_iff]

/-- A lowercase safe pattern is contained in a lowered text exactly when it occurs in the text
with ASCII case ignored. -/
theorem contains_lowercase_iff {q : String} (hq : FoldSafe q.toList)
    (hl : q.toList.map Char.toLower = q.toList) (v : String) :
    (lowercase v).contains q = true ↔ OccursIgnoringAsciiCase q v := by
  rw [String.contains_string_iff, toList_lowercase, infix_flatMap_lowerChar_iff hq,
    OccursIgnoringAsciiCase, hl]

/-! ## The placeholder check -/

/-- Every placeholder pattern is safe and already in lowercase. -/
theorem placeholderPatterns_foldSafe :
    ∀ q ∈ placeholderPatterns, FoldSafe q.toList ∧ q.toList.map Char.toLower = q.toList := by
  decide

/-- The check looks for the first placeholder pattern that occurs with ASCII case ignored. -/
theorem find?_contains_lowercase (v : String) :
    placeholderPatterns.find? (fun q => (lowercase v).contains q) =
      placeholderPatterns.find? (fun q => decide (OccursIgnoringAsciiCase q v)) := by
  apply List.find?_congr
  intro q hq
  obtain ⟨hsafe, hl⟩ := placeholderPatterns_foldSafe q hq
  rw [Bool.eq_iff_iff, contains_lowercase_iff hsafe hl, decide_eq_true_iff]

theorem head?_toList_append {s : String} {c : Char} (h : s.toList.head? = some c) (t : String) :
    (s ++ t).toList.head? = some c := by
  rw [String.toList_append, List.head?_append, h]
  rfl

/-- The two messages of the check differ in their first letter. -/
theorem placeholderMessage_ne (q : String) (n : Nat) :
    "appears to be a placeholder (contains '" ++ q ++ "')" ≠
      "must be at least 6 characters (got " ++ toString n ++ ")" := by
  intro h
  have ha := head?_toList_append
    (head?_toList_append (show ("appears to be a placeholder (contains '").toList.head? = some 'a'
      from rfl) q) "')"
  have hm := head?_toList_append
    (head?_toList_append (show ("must be at least 6 characters (got ").toList.head? = some 'm'
      from rfl) (toString n)) ")"
  rw [h, hm] at ha
  exact absurd ha (by decide)

/-- The placeholder message names its pattern. -/
theorem placeholderMessage_inj {q r : String}
    (h : "appears to be a placeholder (contains '" ++ q ++ "')" =
      "appears to be a placeholder (contains '" ++ r ++ "')") : q = r := by
  have h' := congrArg String.toList h
  simp only [String.toList_append, List.append_cancel_left_eq, List.append_cancel_right_eq] at h'
  exact String.toList_inj.1 h'

section
variable {name v : String}

/-- Two refusals of one variable are equal when their details are. -/
theorem error_insecure_eq_iff {d e : String} :
    (.error (.insecure name d) : Except ConfigError Unit) = .error (.insecure name e) ↔ d = e := by
  simp only [Except.error.injEq, ConfigError.insecure.injEq, true_and]

theorem checkSuffix_of_lt (h : v.utf8ByteSize < 6) :
    checkSuffix name v =
      .error (.insecure name ("must be at least 6 characters (got " ++ toString v.utf8ByteSize ++ ")")) := by
  rw [checkSuffix, if_pos (show v.utf8ByteSize < minSuffixBytes from h)]
  rfl

theorem checkSuffix_of_find?_some (h : 6 ≤ v.utf8ByteSize) {q : String}
    (hq : placeholderPatterns.find? (fun r => decide (OccursIgnoringAsciiCase r v)) = some q) :
    checkSuffix name v = .error (.insecure name ("appears to be a placeholder (contains '" ++ q ++ "')")) := by
  rw [checkSuffix, if_neg (show ¬ v.utf8ByteSize < minSuffixBytes from Nat.not_lt.2 h)]
  dsimp only
  rw [find?_contains_lowercase, hq]

theorem checkSuffix_of_find?_none (h : 6 ≤ v.utf8ByteSize)
    (hn : placeholderPatterns.find? (fun r => decide (OccursIgnoringAsciiCase r v)) = none) :
    checkSuffix name v = .ok () := by
  rw [checkSuffix, if_neg (show ¬ v.utf8ByteSize < minSuffixBytes from Nat.not_lt.2 h)]
  dsimp only
  rw [find?_contains_lowercase, hn]

/-- The first placeholder pattern in list order that occurs with ASCII case ignored. -/
theorem find?_occurs_eq_some_iff (q : String) :
    placeholderPatterns.find? (fun r => decide (OccursIgnoringAsciiCase r v)) = some q ↔
      ∃ before after, placeholderPatterns = before ++ q :: after ∧
        OccursIgnoringAsciiCase q v ∧ ∀ r ∈ before, ¬ OccursIgnoringAsciiCase r v := by
  rw [List.find?_eq_some_iff_append]
  simp only [decide_eq_true_iff, Bool.not_eq_true', decide_eq_false_iff_not]
  constructor
  · rintro ⟨hq, before, after, heq, hbefore⟩
    exact ⟨before, after, heq, hq, hbefore⟩
  · rintro ⟨before, after, heq, hq, hbefore⟩
    exact ⟨hq, before, after, heq, hbefore⟩

end

/-- **The verdict of the suffix check**: under six bytes is refused with its byte count, a suffix
holding a placeholder pattern, case ignored, is refused naming the first, and any other passes. -/
theorem checkSuffix_verdict (name v : String) :
    (checkSuffix name v =
        .error (.insecure name ("must be at least 6 characters (got " ++ toString v.utf8ByteSize ++ ")")) ↔
      v.utf8ByteSize < 6) ∧
    (∀ q, checkSuffix name v =
        .error (.insecure name ("appears to be a placeholder (contains '" ++ q ++ "')")) ↔
      6 ≤ v.utf8ByteSize ∧ ∃ before after, placeholderPatterns = before ++ q :: after ∧
        OccursIgnoringAsciiCase q v ∧ ∀ r ∈ before, ¬ OccursIgnoringAsciiCase r v) ∧
    (checkSuffix name v = .ok () ↔
      6 ≤ v.utf8ByteSize ∧ ∀ q ∈ placeholderPatterns, ¬ OccursIgnoringAsciiCase q v) := by
  by_cases hlen : v.utf8ByteSize < 6
  · rw [checkSuffix_of_lt hlen]
    refine ⟨iff_of_true rfl hlen, fun q => iff_of_false ?_ (by omega), iff_of_false nofun (by omega)⟩
    rw [error_insecure_eq_iff]
    exact fun h => placeholderMessage_ne q _ h.symm
  · have hle : 6 ≤ v.utf8ByteSize := by omega
    match hfind : placeholderPatterns.find? (fun r => decide (OccursIgnoringAsciiCase r v)) with
    | some found =>
      rw [checkSuffix_of_find?_some hle hfind]
      refine ⟨iff_of_false ?_ hlen, fun q => ?_, iff_of_false nofun ?_⟩
      · rw [error_insecure_eq_iff]
        exact placeholderMessage_ne found _
      · rw [error_insecure_eq_iff, ← find?_occurs_eq_some_iff, hfind, Option.some.injEq]
        exact ⟨fun h => ⟨hle, placeholderMessage_inj h⟩, fun ⟨_, h⟩ => h ▸ rfl⟩
      · rintro ⟨-, hnone⟩
        obtain ⟨-, before, after, heq, -⟩ := List.find?_eq_some_iff_append.1 hfind
        exact hnone found (by simp [heq]) (by simpa using List.find?_some hfind)
    | none =>
      rw [checkSuffix_of_find?_none hle hfind]
      have hnone := List.find?_eq_none.1 hfind
      simp only [decide_eq_true_iff] at hnone
      refine ⟨iff_of_false nofun hlen, fun q => iff_of_false nofun ?_, iff_of_true rfl ⟨hle, hnone⟩⟩
      rintro ⟨-, before, after, heq, hq, -⟩
      exact hnone q (by simp [heq]) hq

example : checkSuffix "COGNITO_PASSWORD_SUFFIX" "ééé" = .ok () := by
  cbv

end AccountRegistry
