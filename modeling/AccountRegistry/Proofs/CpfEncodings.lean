import AccountRegistry.Proofs.JsonText
import AccountRegistry.Proofs.CpfCheck
import AccountRegistry.Remote.World

/-!
# A CPF through its encodings

A CPF is kept as its eleven digits. It is encoded in three more ways: the presentation
`ddd.ddd.ddd-dd` (`Cpf.formatted`), a JSON string, and the tax-id column of a stored row.
Each of these encodings gives the CPF back (`cpf_encodings_round_trip`):

* the presentation cuts the digits into full slices (`Cpf.formatted_slices`), and dropping
  its punctuation gives the digits back (`Cpf.normalize_formatted`);
* in a JSON format that reads back what it writes (`Json.Codec.Faithful`), a string read as a
  tax id goes through `Cpf.parse` of its content (`Payload.read_taxId`), and an account's
  object reads back as it was written (`Payload.read_ofAccount`);
* a row decodes through `Cpf.parse` of its tax id (`Remote.decodeRow_of_cpf`,
  `Remote.decodeRow_corrupt_iff`).
-/

set_option autoImplicit false

namespace AccountRegistry

/-! ## The presentation -/

namespace Cpf

variable {raw : String} {c : Cpf}

theorem length_digits_of_parse (h : parse raw = .ok c) : c.digits.toList.length = 11 := by
  obtain ⟨hc, hd⟩ := parse_eq_ok_iff.1 h
  have hlen := (check_eq_ok_iff.1 hc).1
  rw [length_values, ← hd] at hlen
  rwa [String.length_toList]

theorem isDigit_of_parse (h : parse raw = .ok c) {x : Char} (hx : x ∈ c.digits.toList) : x.isDigit = true := by
  obtain ⟨-, hd⟩ := parse_eq_ok_iff.1 h
  rw [hd] at hx
  exact isDigit_of_mem_normalize hx

/-- The presentation's characters: the digits cut after the third, sixth and ninth, with a dot,
a dot and a dash between. -/
theorem toList_formatted (c : Cpf) :
    c.formatted.toList = c.digits.toList.take 3 ++ '.' :: (c.digits.toList.drop 3).take 3 ++ '.' ::
      (c.digits.toList.drop 6).take 3 ++ '-' :: (c.digits.toList.drop 9).take 2 := by
  simp [formatted, part]

/-- The presentation of a CPF cuts its eleven digits into full slices of three, three, three
and two: no slice falls short. -/
theorem formatted_slices (h : parse raw = .ok c) :
    ∃ p₁ p₂ p₃ p₄ : List Char, c.digits.toList = p₁ ++ p₂ ++ p₃ ++ p₄ ∧ p₁.length = 3 ∧ p₂.length = 3 ∧
      p₃.length = 3 ∧ p₄.length = 2 ∧ c.formatted.toList = p₁ ++ '.' :: p₂ ++ '.' :: p₃ ++ '-' :: p₄ := by
  have hlen := length_digits_of_parse h
  refine ⟨_, _, _, _, ?_, ?_, ?_, ?_, ?_, toList_formatted c⟩
  · -- put the slices back together from the last one
    have h₉ : (c.digits.toList.drop 9).take 2 = c.digits.toList.drop 9 :=
      List.take_of_length_le (by simp [hlen])
    have h₆ : c.digits.toList.drop 9 = (c.digits.toList.drop 6).drop 3 := by rw [List.drop_drop]
    have h₃ : c.digits.toList.drop 6 = (c.digits.toList.drop 3).drop 3 := by rw [List.drop_drop]
    rw [h₉, List.append_assoc, List.append_assoc, h₆, List.take_append_drop, h₃, List.take_append_drop,
      List.take_append_drop]
  all_goals simp [hlen]

/-- Dropping the punctuation of the presentation gives the digits back. -/
theorem normalize_formatted (h : parse raw = .ok c) : normalize c.formatted = c.digits := by
  obtain ⟨p₁, p₂, p₃, p₄, hd, -, -, -, -, hf⟩ := formatted_slices h
  have hdig : ∀ x ∈ p₁ ++ p₂ ++ p₃ ++ p₄, x.isDigit = true := fun x hx => isDigit_of_parse h (hd ▸ hx)
  simp only [List.mem_append] at hdig
  have hdot : '.'.isDigit = false := by decide
  have hdash : '-'.isDigit = false := by decide
  rw [normalize, ← String.toList_inj, String.toList_ofList, hf, hd]
  -- the filter keeps every digit of the slices and drops the punctuation between them
  simp only [List.filter_append, List.filter_cons, List.append_assoc, hdot, hdash, Bool.false_eq_true, if_false,
    List.filter_eq_self.2 fun x hx => hdig x (.inl (.inl (.inl hx))),
    List.filter_eq_self.2 fun x hx => hdig x (.inl (.inl (.inr hx))),
    List.filter_eq_self.2 fun x hx => hdig x (.inl (.inr hx)), List.filter_eq_self.2 fun x hx => hdig x (.inr hx)]

/-- The presentation of a CPF parses back to it. -/
theorem parse_formatted (h : parse raw = .ok c) : parse c.formatted = .ok c :=
  parse_of_normalize_eq (parse_digits h) (normalize_formatted h)

end Cpf

/-! ## Rows -/

namespace Remote

/-- A row holding the digits of a CPF decodes to an account with that CPF. -/
theorem decodeRow_of_cpf {c : Cpf} (hc : Cpf.parse c.digits = .ok c) {r : Row} (h : r.cpf = c.digits) :
    decodeRow r = .ok ⟨⟨r.id⟩, r.name, c, r.email⟩ := by
  rw [decodeRow, h, hc]

/-- A row decodes as corrupt exactly when its tax id is not a CPF. -/
theorem decodeRow_corrupt_iff (r : Row) :
    (∃ detail, decodeRow r = .error (.dataCorruption detail)) ↔ ∃ e, Cpf.parse r.cpf = .error e := by
  unfold decodeRow
  rcases Cpf.parse r.cpf with e | c
  · exact ⟨fun _ => ⟨e, rfl⟩, fun _ => ⟨_, rfl⟩⟩
  · simp

end Remote

/-! ## The JSON forms -/

namespace Payload

open Json

/-- A text converts to a tax id exactly when it holds a CPF, and then to the CPF's digits,
which are the text's own digits. -/
theorem cpfOfText_eq_ok {s t : String} : cpfOfText s = .ok t ↔ (∃ c, Cpf.parse s = .ok c) ∧ t = Cpf.normalize s := by
  unfold cpfOfText
  rcases hs : Cpf.parse s with e | c
  · simp
  · simp only [Except.ok.injEq, exists_eq', true_and]
    rw [(Cpf.parse_eq_ok_iff.1 hs).2, eq_comm]

section Format

variable {J : Codec} (hJ : J.Faithful)
include hJ

/-- A JSON string read as a tax id succeeds exactly when its content holds a CPF, and then gives
the content's digits. -/
theorem read_taxId (s : String) (v : Json) :
    J.read (J.write (.str s)) (.value taxId) = .ok v ↔ (∃ c, Cpf.parse s = .ok c) ∧ v = .str (Cpf.normalize s) := by
  rw [taxId, hJ.converted]
  constructor
  · rintro ⟨t, ht, rfl⟩
    obtain ⟨hc, rfl⟩ := cpfOfText_eq_ok.1 ht
    exact ⟨hc, rfl⟩
  · rintro ⟨hc, rfl⟩
    exact ⟨_, cpfOfText_eq_ok.2 ⟨hc, rfl⟩, rfl⟩

/-- An account's JSON object reads back as it under the account shape, when its tax id is a
CPF and its identifier a 64-bit word. -/
theorem read_ofAccount {a : Account} (hc : Cpf.parse a.cpf.digits = .ok a.cpf) (hlo : -2 ^ 63 ≤ a.id.val)
    (hhi : a.id.val < 2 ^ 63) : J.read (J.write (ofAccount a)) (.record account) = .ok (ofAccount a) := by
  have hcpf : cpfOfText a.cpf.digits = .ok a.cpf.digits := by rw [cpfOfText, hc]
  refine hJ.record account _ (by simp only [List.map_cons, List.map_nil]; decide) ?_
  exact .cons ⟨rfl, hlo, hhi⟩ (.cons ⟨rfl, trivial⟩ (.cons ⟨rfl, hcpf⟩ (.cons ⟨rfl, trivial⟩ .nil)))

end Format

end Payload

/-! ## Every encoding of a CPF -/

open Json in
/-- **A CPF keeps its value through every encoding**: its digits, its presentation, its JSON
string in any faithful format, and its row, so an account holding it comes back unchanged. -/
theorem cpf_encodings_round_trip (J : Codec) (hJ : J.Faithful) {raw : String} {c : Cpf}
    (hc : Cpf.parse raw = .ok c) :
    Cpf.parse c.digits = .ok c ∧
    (∃ p₁ p₂ p₃ p₄ : List Char, c.digits.toList = p₁ ++ p₂ ++ p₃ ++ p₄ ∧ p₁.length = 3 ∧ p₂.length = 3 ∧
      p₃.length = 3 ∧ p₄.length = 2 ∧ c.formatted.toList = p₁ ++ '.' :: p₂ ++ '.' :: p₃ ++ '-' :: p₄) ∧
    Cpf.parse c.formatted = .ok c ∧
    J.write (Payload.ofCpf c) = J.write (.str c.digits) ∧
    J.read (J.write (Payload.ofCpf c)) (.value Payload.taxId) = .ok (Payload.ofCpf c) ∧
    (∀ (s : String) (v : Json), J.read (J.write (.str s)) (.value Payload.taxId) = .ok v ↔
      (∃ c', Cpf.parse s = .ok c') ∧ v = .str (Cpf.normalize s)) ∧
    (∀ r : Remote.Row, r.cpf = c.digits → Remote.decodeRow r = .ok ⟨⟨r.id⟩, r.name, c, r.email⟩) ∧
    (∀ r : Remote.Row,
      (∃ detail, Remote.decodeRow r = .error (.dataCorruption detail)) ↔ ∃ e, Cpf.parse r.cpf = .error e) ∧
    (∀ a : Account, a.cpf = c → -2 ^ 63 ≤ a.id.val → a.id.val < 2 ^ 63 →
      J.read (J.write (Payload.ofAccount a)) (.record Payload.account) = .ok (Payload.ofAccount a) ∧
      Remote.decodeRow ⟨a.id.val, a.name, a.cpf.digits, a.email⟩ = .ok a) := by
  have hd := Cpf.parse_digits hc
  refine ⟨hd, Cpf.formatted_slices hc, Cpf.parse_formatted hc, rfl, ?_, Payload.read_taxId hJ,
    fun r => Remote.decodeRow_of_cpf hd, Remote.decodeRow_corrupt_iff, ?_⟩
  · -- the digits hold a CPF and are their own normal form
    exact (Payload.read_taxId hJ c.digits _).2 ⟨⟨c, hd⟩, congrArg Json.str (Cpf.parse_eq_ok_iff.1 hd).2⟩
  · rintro a rfl hlo hhi
    exact ⟨Payload.read_ofAccount hJ hd hlo hhi, Remote.decodeRow_of_cpf hd rfl⟩

open Json in
/-- An account with a punctuated CPF comes back unchanged from its JSON in the format the
program runs with. -/
theorem cpf_encodings_round_trip_account :
    let a : Account := ⟨⟨7⟩, "Ana", ⟨"17107972073"⟩, "ana@example.com"⟩
    Cpf.parse "171.079.720-73" = .ok a.cpf ∧
      codec.read (codec.write (Payload.ofAccount a)) (.record Payload.account) = .ok (Payload.ofAccount a) := by
  intro a
  have hc : Cpf.parse "171.079.720-73" = .ok a.cpf := by decide
  exact ⟨hc, ((cpf_encodings_round_trip codec codec_faithful hc).2.2.2.2.2.2.2.2 a rfl (by decide) (by decide)).1⟩

end AccountRegistry
