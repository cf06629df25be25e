import Mathlib
import AccountRegistry.Payload
import AccountRegistry.Json.Reader

/-!
# The program's JSON reads back

The reader runs in `ReadM`, over the bytes of a text and an offset into them. `ReadM.at` runs a
step from an offset, and `remaining src i` is what the step sees from there. Every lemma here
has the same form: when what remains starts with a value's written form, the step returns the
value and stops right after that form. So the lemmas chain from one value to the next.

* Strings (`string_at`, `textValue_quote`): the quoted form of every string reads back as the
  string. The proof goes one character at a time (`stringBody_char`). A character is written
  either as itself in UTF-8, as a two-byte escape, or as a `\u` escape.
* Integers (`integerValue_at`): the decimal form of every 64-bit integer reads back as the
  integer, before any byte that cannot continue a number.
* Objects (`recordValue_written`, `readDocument_written`): an object written by `write` reads
  back through a record shape that reads back each member, if its member names are distinct.
  The proof is an induction over the members (`recordMembers_later`).
* Conversions (`readDocument_quote_converted`): a quoted string read through a conversion gives
  what the conversion gives for its content.

So the format the program runs with is faithful (`codec_faithful`): it meets the laws
`Json.Codec.Faithful` asks of a JSON format, the ones the services' statements assume.
-/

set_option autoImplicit false

namespace AccountRegistry.Json

/-- A reading step run on the bytes `src` from the offset `i`: its outcome and the offset it
stops at. -/
def ReadM.at {α : Type} (x : ReadM α) (src : ByteArray) (i : Nat) : Except ReadError α × Nat :=
  ((x.run src).run).run i

section Steps

variable {α β : Type} (src : ByteArray) (i : Nat)

@[simp] theorem at_pure (a : α) : (pure a : ReadM α).at src i = (.ok a, i) := rfl

theorem at_bind (x : ReadM α) (f : α → ReadM β) :
    (x >>= f).at src i =
      match x.at src i with
      | (.ok a, j) => (f a).at src j
      | (.error e, j) => (.error e, j) := by
  rcases h : x.at src i with ⟨e | a, j⟩
  all_goals
    simp only [ReadM.at, bind, ReaderT.bind, ReaderT.run, ExceptT.bind, ExceptT.run, ExceptT.mk, StateT.run,
      ExceptT.bindCont, StateT.bind] at h ⊢
    simp only [h, pure, StateT.pure]

theorem at_bind_ok {x : ReadM α} {a : α} {j : Nat} (h : x.at src i = (.ok a, j)) (f : α → ReadM β) :
    (x >>= f).at src i = (f a).at src j := by
  rw [at_bind, h]

theorem at_bind_error {x : ReadM α} {e : ReadError} {j : Nat} (h : x.at src i = (.error e, j)) (f : α → ReadM β) :
    (x >>= f).at src i = (.error e, j) := by
  rw [at_bind, h]

@[simp] theorem at_read : (read : ReadM ByteArray).at src i = (.ok src, i) := rfl

@[simp] theorem at_get : (get : ReadM Nat).at src i = (.ok i, i) := rfl

@[simp] theorem at_set (j : Nat) : (set j : ReadM PUnit).at src i = (.ok ⟨⟩, j) := rfl

@[simp] theorem at_modify (f : Nat → Nat) : (modify f : ReadM PUnit).at src i = (.ok ⟨⟩, f i) := rfl

@[simp] theorem at_eat : eat.at src i = (.ok (), i + 1) := rfl

theorem at_tryCatch (x : ReadM α) (handle : ReadError → ReadM α) :
    (tryCatch x handle).at src i =
      match x.at src i with
      | (.ok a, j) => (.ok a, j)
      | (.error e, j) => (handle e).at src j := by
  rcases h : x.at src i with ⟨e | a, j⟩
  all_goals
    simp only [ReadM.at, tryCatch, MonadExcept.tryCatch, tryCatchThe, MonadExceptOf.tryCatch, ExceptT.tryCatch,
      ReaderT.run, ExceptT.run, ExceptT.mk, StateT.run, bind, StateT.bind] at h ⊢
    simp only [h, pure, StateT.pure]

theorem at_peek : peek.at src i = (.ok (if h : i < src.size then some src[i] else none), i) := rfl

end Steps

/-! ## What remains of the text -/

/-- The bytes of `src` from the offset `i` on. -/
def remaining (src : ByteArray) (i : Nat) : List UInt8 := src.data.toList.drop i

section Remaining

variable {src : ByteArray} {i : Nat}

theorem remaining_append {l rest : List UInt8} (h : remaining src i = l ++ rest) :
    remaining src (i + l.length) = rest := by
  rw [remaining, ← List.drop_drop, ← remaining, h, List.drop_left]

theorem remaining_succ {b : UInt8} {rest : List UInt8} (h : remaining src i = b :: rest) :
    remaining src (i + 1) = rest :=
  remaining_append (l := [b]) h

theorem length_remaining : (remaining src i).length = src.size - i := by
  simp [remaining]

theorem getElem_of_remaining {b : UInt8} {rest : List UInt8} (h : remaining src i = b :: rest) :
    ∃ hi : i < src.size, src[i] = b := by
  have hl : i < src.data.toList.length := by
    refine Nat.lt_of_not_le fun hn => ?_
    rw [remaining, List.drop_eq_nil_of_le hn] at h
    exact List.cons_ne_nil _ _ h.symm
  have hi : i < src.size := by simpa using hl
  rw [remaining, List.drop_eq_getElem_cons hl, List.cons.injEq] at h
  exact ⟨hi, by rw [ByteArray.getElem_eq_getElem_data, ← Array.getElem_toList, h.1]⟩

theorem peek_of_remaining {b : UInt8} {rest : List UInt8} (h : remaining src i = b :: rest) :
    peek.at src i = (.ok (some b), i) := by
  obtain ⟨hi, hb⟩ := getElem_of_remaining h
  rw [at_peek, dif_pos hi, hb]

theorem byteAt_of_remaining {b : UInt8} {rest : List UInt8} (h : remaining src i = b :: rest) :
    byteAt src i = b := by
  obtain ⟨hi, hb⟩ := getElem_of_remaining h
  rw [byteAt, dif_pos hi, hb]

theorem peek_of_remaining_nil (h : remaining src i = []) : peek.at src i = (.ok none, i) := by
  have hi : ¬ i < src.size := by
    intro hi
    rw [remaining, List.drop_eq_nil_iff] at h
    simp at h
    omega
  rw [at_peek, dif_neg hi]

theorem next_of_remaining {b : UInt8} {rest : List UInt8} (h : remaining src i = b :: rest) :
    next.at src i = (.ok (some b), i + 1) := by
  rw [next, at_bind_ok _ _ (peek_of_remaining h)]
  rfl

end Remaining

/-! ## Strings -/

section Strings

variable {src : ByteArray} {i : Nat}

/-- A byte that stands for itself inside a string: no quote, no backslash, no control. -/
theorem stringBody_plain {b : UInt8} {rest : List UInt8} (h : remaining src i = b :: rest) (hq : b ≠ 34)
    (hs : b ≠ 92) (hc : ¬ b < 32) (fuel : Nat) (acc : ByteArray) :
    (stringBody (fuel + 1) acc).at src i = (stringBody fuel (acc.push b)).at src (i + 1) := by
  rw [stringBody, at_bind_ok _ _ (peek_of_remaining h)]
  simp only [beq_iff_eq, hq, hs, hc, if_false]
  exact at_bind_ok _ _ (at_eat src i) _

/-- A backslash hands over to the escape, whose bytes are kept. -/
theorem stringBody_escape {rest : List UInt8} (h : remaining src i = 92 :: rest) {bs : List UInt8} {j : Nat}
    (he : escape.at src (i + 1) = (.ok bs, j)) (fuel : Nat) (acc : ByteArray) :
    (stringBody (fuel + 1) acc).at src i = (stringBody fuel (bs.foldl ByteArray.push acc)).at src j := by
  rw [stringBody, at_bind_ok _ _ (peek_of_remaining h)]
  simp only [beq_iff_eq]
  rw [if_neg (by decide), if_pos trivial, at_bind_ok _ _ (at_eat src i), at_bind_ok _ _ he]

/-- The closing quote ends the string with the text of the bytes kept. -/
theorem stringBody_close {rest : List UInt8} (h : remaining src i = 34 :: rest) (fuel : Nat) (acc : ByteArray) :
    (stringBody (fuel + 1) acc).at src i = (.ok ((String.fromUTF8? acc).getD ""), i + 1) := by
  rw [stringBody, at_bind_ok _ _ (peek_of_remaining h)]
  simp only [beq_iff_eq, if_true]
  rw [at_bind_ok _ _ (at_eat src i)]
  rfl

/-- Pushing bytes one by one appends them. -/
theorem foldl_push (bs : List UInt8) (acc : ByteArray) : bs.foldl ByteArray.push acc = acc ++ bs.toByteArray := by
  induction bs generalizing acc with
  | nil => simp
  | cons b bs ih =>
    rw [List.foldl_cons, ih, ← ByteArray.append_toByteArray_singleton, ByteArray.append_assoc,
      ← List.toByteArray_append, List.singleton_append]

/-- A run of bytes that stand for themselves is kept as it is, one turn of the loop each. -/
theorem stringBody_plains {bs rest : List UInt8} (hbs : ∀ b ∈ bs, 32 ≤ b.toNat ∧ b.toNat ≠ 34 ∧ b.toNat ≠ 92)
    (h : remaining src i = bs ++ rest) (fuel : Nat) (acc : ByteArray) :
    (stringBody (fuel + bs.length) acc).at src i = (stringBody fuel (acc ++ bs.toByteArray)).at src (i + bs.length) := by
  induction bs generalizing i acc with
  | nil => simp
  | cons b bs ih =>
    obtain ⟨h32, hq, hs⟩ := hbs b (List.mem_cons_self ..)
    rw [List.cons_append] at h
    rw [List.length_cons, ← Nat.add_assoc,
      stringBody_plain h (fun he => hq (by rw [he]; rfl)) (fun he => hs (by rw [he]; rfl))
        (fun hl => by rw [UInt8.lt_iff_toNat_lt] at hl; exact absurd hl (by simpa using h32))]
    rw [ih (fun b hb => hbs b (List.mem_cons_of_mem _ hb)) (remaining_succ h), ← ByteArray.append_toByteArray_singleton,
      ByteArray.append_assoc, ← List.toByteArray_append, List.singleton_append, Nat.add_assoc, Nat.add_comm 1]

/-- The escape after a backslash is chosen by the byte after it. -/
theorem escape_at {e : UInt8} {rest : List UInt8} (h : remaining src i = e :: rest) :
    escape.at src i =
      (if e == 34 then pure [34] else if e == 92 then pure [92] else if e == 47 then pure [47]
        else if e == 98 then pure [8] else if e == 102 then pure [12] else if e == 110 then pure [10]
        else if e == 114 then pure [13] else if e == 116 then pure [9] else if e == 117 then unicodeEscape
        else failAt .invalidEscape : ReadM (List UInt8)).at src (i + 1) := by
  rw [escape, at_bind_ok _ _ (next_of_remaining h)]

/-- Four hex digits give their value. -/
theorem hexEscape_at {a b c d : UInt8} {rest : List UInt8} (h : remaining src i = a :: b :: c :: d :: rest)
    {va vb vc vd : Nat} (ha : hexValue a = some va) (hb : hexValue b = some vb) (hc : hexValue c = some vc)
    (hd : hexValue d = some vd) : hexEscape.at src i = (.ok (((va * 16 + vb) * 16 + vc) * 16 + vd), i + 4) := by
  have hlen : i + 4 ≤ src.size := by
    have := congrArg List.length h
    rw [length_remaining] at this
    simp at this
    omega
  have h₁ := remaining_succ h
  have h₂ := remaining_succ h₁
  have h₃ := remaining_succ h₂
  rw [hexEscape]
  simp only [at_bind_ok _ _ (at_read src i), at_bind_ok _ _ (at_get src i), if_pos hlen,
    at_bind_ok _ _ (at_set src i (i + 4)), byteAt_of_remaining h, byteAt_of_remaining h₁,
    byteAt_of_remaining h₂, byteAt_of_remaining h₃, List.map_cons, List.map_nil, ha, hb, hc, hd]
  rfl

end Strings

/-! ## Reading back one written character -/

/-- The bytes of the written form of a character: escaped, then encoded. -/
def charBytes (c : Char) : List UInt8 := (escapeChar c).flatMap String.utf8EncodeChar

/-- The turns of the string loop that read a written character back: one for an escape,
one per byte otherwise. -/
def readSteps (c : Char) : Nat := if escapeChar c = [c] then c.utf8Size else 1

theorem utf8EncodeChar_of_lt {c : Char} (h : c.toNat < 128) : String.utf8EncodeChar c = [UInt8.ofNat c.toNat] := by
  unfold String.utf8EncodeChar
  rw [if_pos (by show c.toNat ≤ 127; omega)]
  rfl

/-- A hex digit is one byte, and reads back as its value. -/
theorem hexDigit_bytes : ∀ k, k < 16 →
    String.utf8EncodeChar (hexDigit k) = [UInt8.ofNat (hexDigit k).toNat] ∧
      hexValue (UInt8.ofNat (hexDigit k).toNat) = some k := by
  decide

theorem escapeChar_of_plain {c : Char} (h32 : 32 ≤ c.toNat) (hq : c.toNat ≠ 34) (hb : c.toNat ≠ 92) :
    escapeChar c = [c] := by
  have ne : ∀ d : Char, c.toNat ≠ d.toNat → (c == d) = false := fun d hd => by
    rw [beq_eq_false_iff_ne]
    exact fun he => hd (congrArg Char.toNat he)
  unfold escapeChar
  rw [ne '"' hq, ne '\\' hb, ne '\n' (by simp; omega), ne '\r' (by simp; omega), ne '\t' (by simp; omega)]
  simp only [Bool.false_eq_true, if_false, beq_iff_eq]
  rw [if_neg (by omega), if_neg (by omega), if_neg (by omega)]

/-- The bytes of a character that is written as itself: none is a quote, a backslash or a
control byte. -/
theorem plain_utf8 {c : Char} (h32 : 32 ≤ c.toNat) (hq : c.toNat ≠ 34) (hb : c.toNat ≠ 92) :
    ∀ b ∈ String.utf8EncodeChar c, 32 ≤ b.toNat ∧ b.toNat ≠ 34 ∧ b.toNat ≠ 92 := by
  have hv : c.val.toNat = c.toNat := rfl
  intro b hmem
  unfold String.utf8EncodeChar at hmem
  simp only [hv] at hmem
  -- one byte below 128, or leading and continuation bytes all at least 128
  split at hmem
  · simp only [List.mem_singleton] at hmem
    subst hmem
    simp only [UInt8.toNat_ofNat']
    omega
  · split at hmem
    · simp only [List.mem_cons, List.mem_nil_iff, or_false] at hmem
      rcases hmem with rfl | rfl <;> simp only [UInt8.toNat_ofNat'] <;> omega
    · split at hmem
      · simp only [List.mem_cons, List.mem_nil_iff, or_false] at hmem
        rcases hmem with rfl | rfl | rfl <;> simp only [UInt8.toNat_ofNat'] <;> omega
      · simp only [List.mem_cons, List.mem_nil_iff, or_false] at hmem
        rcases hmem with rfl | rfl | rfl | rfl <;> simp only [UInt8.toNat_ofNat'] <;> omega

section Chars

variable {src : ByteArray} {i : Nat}

theorem stringBody_char_short {c : Char} (e d : UInt8) (hb : charBytes c = [92, e])
    (hu : String.utf8EncodeChar c = [d]) (hs : readSteps c = 1)
    (he : ∀ j rest, remaining src j = e :: rest → escape.at src j = (.ok [d], j + 1))
    {rest : List UInt8} (h : remaining src i = charBytes c ++ rest) (fuel : Nat) (acc : ByteArray) :
    (stringBody (fuel + readSteps c) acc).at src i =
      (stringBody fuel (acc ++ (String.utf8EncodeChar c).toByteArray)).at src (i + (charBytes c).length) := by
  rw [hb] at h ⊢
  rw [hs, hu, stringBody_escape h (he _ _ (remaining_succ h)), foldl_push]
  rfl

theorem stringBody_char_control {c : Char} (h32 : c.toNat < 32)
    (hesc : escapeChar c = ['\\', 'u', '0', '0', hexDigit (c.toNat / 16), hexDigit (c.toNat % 16)])
    {rest : List UInt8} (h : remaining src i = charBytes c ++ rest) (fuel : Nat) (acc : ByteArray) :
    (stringBody (fuel + readSteps c) acc).at src i =
      (stringBody fuel (acc ++ (String.utf8EncodeChar c).toByteArray)).at src (i + (charBytes c).length) := by
  obtain ⟨hx, vx⟩ := hexDigit_bytes (c.toNat / 16) (by omega)
  obtain ⟨hy, vy⟩ := hexDigit_bytes (c.toNat % 16) (by omega)
  have hbytes : charBytes c = [92, 117, 48, 48, UInt8.ofNat (hexDigit (c.toNat / 16)).toNat,
      UInt8.ofNat (hexDigit (c.toNat % 16)).toNat] := by
    rw [charBytes, hesc]
    simp only [List.flatMap_cons, List.flatMap_nil, hx, hy]
    rfl
  have hsteps : readSteps c = 1 := by
    rw [readSteps, hesc, if_neg (by simp)]
  rw [hbytes] at h ⊢
  rw [hsteps, utf8EncodeChar_of_lt (by omega)]
  have h₁ := remaining_succ h
  have h₂ := remaining_succ h₁
  -- the escape reads `u`, then four hex digits worth the character's code
  have v0 : hexValue 48 = some 0 := by decide
  have hhex : hexEscape.at src (i + 1 + 1) = (.ok c.toNat, i + 6) := by
    rw [hexEscape_at h₂ v0 v0 vx vy]
    congr 2
    omega
  have he : escape.at src (i + 1) = (.ok [UInt8.ofNat c.toNat], i + 6) := by
    rw [escape_at h₁]
    show unicodeEscape.at src (i + 1 + 1) = _
    rw [unicodeEscape, at_bind_ok _ _ hhex, if_neg (by simp; omega), if_pos (by simp; omega), utf8Bytes,
      if_pos (by omega)]
    rfl
  rw [stringBody_escape h he, foldl_push]
  rfl

theorem stringBody_char_plain {c : Char} (h32 : 32 ≤ c.toNat) (hq : c.toNat ≠ 34) (hb : c.toNat ≠ 92)
    {rest : List UInt8} (h : remaining src i = charBytes c ++ rest) (fuel : Nat) (acc : ByteArray) :
    (stringBody (fuel + readSteps c) acc).at src i =
      (stringBody fuel (acc ++ (String.utf8EncodeChar c).toByteArray)).at src (i + (charBytes c).length) := by
  have hesc := escapeChar_of_plain h32 hq hb
  have hbytes : charBytes c = String.utf8EncodeChar c := by
    rw [charBytes, hesc, List.flatMap_cons, List.flatMap_nil, List.append_nil]
  have hsteps : readSteps c = (String.utf8EncodeChar c).length := by
    rw [readSteps, if_pos hesc, String.length_utf8EncodeChar]
  rw [hbytes] at h ⊢
  rw [hsteps]
  exact stringBody_plains (plain_utf8 h32 hq hb) h fuel acc

/-- **One written character reads back as its bytes**, in one turn of the string loop for an
escape and one per byte otherwise. The cases follow `escapeChar`. -/
theorem stringBody_char (c : Char) {rest : List UInt8} (h : remaining src i = charBytes c ++ rest) (fuel : Nat)
    (acc : ByteArray) :
    (stringBody (fuel + readSteps c) acc).at src i =
      (stringBody fuel (acc ++ (String.utf8EncodeChar c).toByteArray)).at src (i + (charBytes c).length) := by
  by_cases hq : c = '"'
  · subst hq
    exact stringBody_char_short 34 34 (by decide) (by decide) (by decide) (fun j _ hj => by rw [escape_at hj]; rfl) h fuel acc
  by_cases hb : c = '\\'
  · subst hb
    exact stringBody_char_short 92 92 (by decide) (by decide) (by decide) (fun j _ hj => by rw [escape_at hj]; rfl) h fuel acc
  by_cases hn : c = '\n'
  · subst hn
    exact stringBody_char_short 110 10 (by decide) (by decide) (by decide) (fun j _ hj => by rw [escape_at hj]; rfl) h fuel acc
  by_cases hr : c = '\r'
  · subst hr
    exact stringBody_char_short 114 13 (by decide) (by decide) (by decide) (fun j _ hj => by rw [escape_at hj]; rfl) h fuel acc
  by_cases ht : c = '\t'
  · subst ht
    exact stringBody_char_short 116 9 (by decide) (by decide) (by decide) (fun j _ hj => by rw [escape_at hj]; rfl) h fuel acc
  by_cases h8 : c.toNat = 8
  · obtain rfl : c = Char.ofNat 8 := Char.toNat_inj.1 (by rw [h8]; rfl)
    exact stringBody_char_short 98 8 (by decide) (by decide) (by decide) (fun j _ hj => by rw [escape_at hj]; rfl) h fuel acc
  by_cases h12 : c.toNat = 12
  · obtain rfl : c = Char.ofNat 12 := Char.toNat_inj.1 (by rw [h12]; rfl)
    exact stringBody_char_short 102 12 (by decide) (by decide) (by decide) (fun j _ hj => by rw [escape_at hj]; rfl) h fuel acc
  have hq' : c.toNat ≠ 34 := fun he => hq (Char.toNat_inj.1 (by rw [he]; rfl))
  have hb' : c.toNat ≠ 92 := fun he => hb (Char.toNat_inj.1 (by rw [he]; rfl))
  by_cases h32 : c.toNat < 32
  · -- the other control characters are written as `\u00xx`
    refine stringBody_char_control h32 ?_ h fuel acc
    unfold escapeChar
    rw [beq_eq_false_iff_ne.2 hq, beq_eq_false_iff_ne.2 hb, beq_eq_false_iff_ne.2 hn, beq_eq_false_iff_ne.2 hr,
      beq_eq_false_iff_ne.2 ht, beq_eq_false_iff_ne.2 h8, beq_eq_false_iff_ne.2 h12]
    simp only [Bool.false_eq_true, if_false]
    rw [if_pos h32]
  · exact stringBody_char_plain (Nat.le_of_not_lt h32) hq' hb' h fuel acc

theorem one_le_length_charBytes (c : Char) : 1 ≤ (charBytes c).length := by
  have hne : escapeChar c ≠ [] := by
    unfold escapeChar
    repeat' split
    all_goals simp
  obtain ⟨d, ds, hd⟩ := List.exists_cons_of_ne_nil hne
  rw [charBytes, hd, List.flatMap_cons, List.length_append, String.length_utf8EncodeChar]
  have := Char.utf8Size_pos d
  omega

theorem readSteps_le (c : Char) : readSteps c ≤ (charBytes c).length := by
  unfold readSteps
  split
  · next hesc =>
    have hlen : (charBytes c).length = c.utf8Size := by
      rw [charBytes, hesc, List.flatMap_cons, List.flatMap_nil, List.append_nil, String.length_utf8EncodeChar]
    omega
  · exact one_le_length_charBytes c

theorem sum_readSteps_le (cs : List Char) : (cs.map readSteps).sum ≤ (cs.flatMap charBytes).length := by
  induction cs with
  | nil => simp
  | cons c cs ih =>
    rw [List.map_cons, List.sum_cons, List.flatMap_cons, List.length_append]
    have := readSteps_le c
    omega

/-- **The written content of a string reads back as its bytes**: by induction on its
characters, each read by `stringBody_char`. -/
theorem stringBody_chars (cs : List Char) {rest : List UInt8} (h : remaining src i = cs.flatMap charBytes ++ rest)
    (fuel : Nat) (acc : ByteArray) :
    (stringBody (fuel + (cs.map readSteps).sum) acc).at src i =
      (stringBody fuel (acc ++ (cs.flatMap String.utf8EncodeChar).toByteArray)).at src (i + (cs.flatMap charBytes).length) := by
  induction cs generalizing i acc with
  | nil => simp
  | cons c cs ih =>
    rw [List.flatMap_cons, List.append_assoc] at h
    rw [List.map_cons, List.sum_cons, Nat.add_comm (readSteps c), ← Nat.add_assoc, stringBody_char c h,
      ih (remaining_append h), ByteArray.append_assoc, ← List.toByteArray_append, List.flatMap_cons,
      List.flatMap_cons, List.length_append, Nat.add_assoc]

end Chars

/-- The text of the bytes of a string is that string. -/
theorem fromUTF8?_toByteArray (s : String) : String.fromUTF8? s.toByteArray = some s := by
  rw [String.fromUTF8?, dif_pos s.isValidUTF8]
  rfl

/-- The bytes of the written form of a string: a quote, its escaped characters, a quote. -/
theorem quote_bytes (s : String) :
    (quote s).toUTF8.data.toList = 34 :: s.toList.flatMap charBytes ++ [34] := by
  rw [quote, String.toUTF8_eq_toByteArray, String.toByteArray_ofList, List.utf8Encode,
    List.toList_data_toByteArray, List.flatMap_cons, List.flatMap_append, List.flatMap_assoc]
  rfl

section Read

variable {src : ByteArray} {i : Nat}

/-- **A written string reads back as itself**, with the offset after its closing quote. -/
theorem string_at (s : String) {rest : List UInt8} (h : remaining src i = s.toList.flatMap charBytes ++ 34 :: rest) :
    string.at src i = (.ok s, i + (s.toList.flatMap charBytes).length + 1) := by
  have hK : (s.toList.map readSteps).sum ≤ src.size := by
    have hl := congrArg List.length h
    rw [length_remaining, List.length_append] at hl
    have := sum_readSteps_le s.toList
    omega
  have hfuel : src.size + 1 = (src.size - (s.toList.map readSteps).sum + 1) + (s.toList.map readSteps).sum := by
    omega
  rw [string, budget, at_bind_ok _ _ (at_bind_ok _ _ (at_read src i) _), hfuel,
    stringBody_chars s.toList h, stringBody_close (remaining_append h), ByteArray.empty_append]
  show ((Except.ok ((String.fromUTF8? s.toList.utf8Encode).getD "") : Except ReadError String), _) = _
  rw [String.utf8Encode_toList, fromUTF8?_toByteArray]
  rfl

theorem skipBlank_of_remaining {b : UInt8} {rest : List UInt8} (h : remaining src i = b :: rest)
    (hb : isBlank b = false) : skipBlank.at src i = (.ok (some b), i) := by
  obtain ⟨hi, hbi⟩ := getElem_of_remaining h
  have hend : blankEnd src i = i := by
    rw [blankEnd, dif_pos hi, hbi, hb]
    rfl
  rw [skipBlank, at_bind_ok _ _ (at_read src i), at_bind_ok _ _ (at_modify src i _), hend]
  exact peek_of_remaining h

theorem skipBlank_of_remaining_nil (h : remaining src i = []) : skipBlank.at src i = (.ok none, i) := by
  have hi : ¬ i < src.size := by
    have := congrArg List.length h
    rw [length_remaining] at this
    simp at this
    omega
  have hend : blankEnd src i = i := by
    rw [blankEnd, dif_neg hi]
  rw [skipBlank, at_bind_ok _ _ (at_read src i), at_bind_ok _ _ (at_modify src i _), hend]
  exact peek_of_remaining_nil h

/-- A written string, where a string value is expected, reads back as itself. -/
theorem textValue_at (expecting : String) (s : String) {rest : List UInt8}
    (h : remaining src i = 34 :: s.toList.flatMap charBytes ++ 34 :: rest) :
    (textValue expecting).at src i = (.ok s, i + 1 + (s.toList.flatMap charBytes).length + 1) := by
  rw [textValue, at_bind_ok _ _ (skipBlank_of_remaining h rfl)]
  show (do eat; placing string).at src i = _
  rw [at_bind_ok _ _ (at_eat src i), placing, at_tryCatch, string_at s (remaining_succ h)]

end Read



/-! ## Integers -/

/-- The byte of an ASCII character. -/
abbrev asciiByte (c : Char) : UInt8 := UInt8.ofNat c.toNat

theorem digit_toNat {d : Char} (hd : d.isDigit = true) : 48 ≤ d.toNat ∧ d.toNat ≤ 57 :=
  Char.isDigit_iff_toNat.1 hd

theorem utf8_of_digits {ds : List Char} (hds : ∀ d ∈ ds, d.isDigit = true) :
    ds.flatMap String.utf8EncodeChar = ds.map asciiByte := by
  induction ds with
  | nil => rfl
  | cons d ds ih =>
    have hd := digit_toNat (hds d (List.mem_cons_self ..))
    rw [List.flatMap_cons, List.map_cons, utf8EncodeChar_of_lt (by omega),
      ih fun e he => hds e (List.mem_cons_of_mem _ he)]
    rfl

theorem toNat_asciiByte {d : Char} (hd : d.isDigit = true) : (asciiByte d).toNat = d.toNat := by
  have h := digit_toNat hd
  rw [UInt8.toNat_ofNat']
  omega

theorem isDigit_asciiByte {d : Char} (hd : d.isDigit = true) :
    isDigit (asciiByte d) = true ∧ digitOf (asciiByte d) = d.toNat - '0'.toNat := by
  have h := digit_toNat hd
  have hb := toNat_asciiByte hd
  refine ⟨?_, by rw [digitOf, hb]; rfl⟩
  simp only [isDigit, Bool.and_eq_true, decide_eq_true_eq, UInt8.le_iff_toNat_le, hb]
  exact ⟨h.1, h.2⟩

/-- A digit's byte is neither a blank nor a minus sign. -/
theorem asciiByte_digit_ne {d : Char} (hd : d.isDigit = true) :
    isBlank (asciiByte d) = false ∧ (asciiByte d == 45) = false := by
  have h := digit_toNat hd
  have hb := toNat_asciiByte hd
  simp only [isBlank, Bool.or_eq_false_iff, beq_eq_false_iff_ne, ne_eq]
  refine ⟨⟨⟨⟨?_, ?_⟩, ?_⟩, ?_⟩, ?_⟩ <;> intro hc <;> have := congrArg UInt8.toNat hc <;> simp at this <;> omega

/-- The overflow test fails exactly when the next value stays within the limit. -/
theorem overflows_eq_false {a d limit : Nat} (hd : d < 10) (h : a * 10 + d ≤ limit) :
    overflows a d limit = false := by
  have hdm := Nat.div_add_mod limit 10
  have hm := Nat.mod_lt limit (show 10 > 0 by omega)
  unfold overflows
  by_cases h₁ : a ≥ limit / 10
  · by_cases h₂ : a > limit / 10
    · omega
    · simp only [h₁, h₂, decide_true, decide_false, Bool.true_and, Bool.false_or, decide_eq_false_iff_not]
      omega
  · simp [h₁]

theorem le_ofDigitChars (ds : List Char) (s : Nat) : s ≤ Nat.ofDigitChars 10 ds s := by
  rw [Nat.ofDigitChars_eq_ofDigitChars_zero]
  have := Nat.pow_pos (n := ds.length) (show 0 < 10 by omega)
  have := Nat.le_mul_of_pos_left s this
  omega

section Integers

variable {src : ByteArray} {i : Nat} (positive : Bool)

/-- A run of digits is read into its value, one turn of the loop each, while the value stays
within 64 bits. -/
theorem integer_go_digits {ds : List Char} (hds : ∀ d ∈ ds, d.isDigit = true) {s : Nat}
    (hov : Nat.ofDigitChars 10 ds s ≤ wordMax) {rest : List UInt8} (h : remaining src i = ds.map asciiByte ++ rest)
    (fuel : Nat) :
    (integer.go positive (fuel + ds.length) s).at src i =
      (integer.go positive fuel (Nat.ofDigitChars 10 ds s)).at src (i + ds.length) := by
  induction ds generalizing i s with
  | nil => rfl
  | cons d ds ih =>
    obtain ⟨hdig, hval⟩ := isDigit_asciiByte (hds d (List.mem_cons_self ..))
    have hd := digit_toNat (hds d (List.mem_cons_self ..))
    rw [List.map_cons, List.cons_append] at h
    rw [Nat.ofDigitChars_cons] at hov ⊢
    have hnext : s * 10 + digitOf (asciiByte d) ≤ wordMax := by
      have := le_ofDigitChars ds (10 * s + (d.toNat - '0'.toNat))
      rw [hval]
      omega
    rw [List.length_cons, ← Nat.add_assoc, integer.go, at_bind_ok _ _ (peek_of_remaining h)]
    simp only [hdig, if_true, overflows_eq_false (by rw [hval]; simp at hd ⊢; omega) hnext, Bool.false_eq_true,
      if_false]
    have hov' : Nat.ofDigitChars 10 ds (s * 10 + digitOf (asciiByte d)) ≤ wordMax := by
      rw [hval, Nat.mul_comm]
      exact hov
    rw [at_bind_ok _ _ (at_eat src i), ih (fun e he => hds e (List.mem_cons_of_mem _ he)) hov' (remaining_succ h),
      hval, Nat.mul_comm s 10, Nat.add_assoc, Nat.add_comm 1]

/-- The loop stops at a byte that is not a digit and finishes the number there. -/
theorem integer_go_stop {b : UInt8} {rest : List UInt8} (h : remaining src i = b :: rest) (hb : isDigit b = false)
    (fuel v : Nat) : (integer.go positive (fuel + 1) v).at src i = (numberTail positive v).at src i := by
  rw [integer.go, at_bind_ok _ _ (peek_of_remaining h)]
  simp only [hb, Bool.false_eq_true, if_false]

/-- A number ended by a byte that is not a point or an exponent letter is an integer: unsigned
when written without a sign, and negative when it fits 64 bits. -/
theorem numberTail_at {b : UInt8} {rest : List UInt8} (h : remaining src i = b :: rest) (hp : b ≠ 46)
    (he : b ≠ 101) (hE : b ≠ 69) (v : Nat) :
    (numberTail positive v).at src i =
      ((if positive then .ok (.unsigned v)
        else if v == 0 || v > Nat.pow 2 63 then .ok (.float (BinaryValue.ofNat BinaryFormat.double v).negate)
        else .ok (.signed (-(v : Int)))), i) := by
  rw [numberTail, at_bind_ok _ _ (peek_of_remaining h)]
  split
  · next hb => exact absurd (Option.some.inj hb) hp
  · next hb => exact absurd (Option.some.inj hb) he
  · next hb => exact absurd (Option.some.inj hb) hE
  · split
    · rfl
    · split <;> rfl

theorem toDigits_head {m : Nat} (hm : 0 < m) : ∃ d ds, Nat.toDigits 10 m = d :: ds ∧ d ≠ '0' := by
  induction m using Nat.strongRecOn with
  | _ m ih =>
    by_cases h10 : m < 10
    · refine ⟨m.digitChar, [], Nat.toDigits_of_lt_base h10, ?_⟩
      have : ∀ k, k < 10 → 0 < k → k.digitChar ≠ '0' := by decide
      exact this m h10 hm
    · obtain ⟨d, ds, hds, hd⟩ := ih (m / 10) (by omega) (by omega)
      refine ⟨d, ds ++ [(m % 10).digitChar], ?_, hd⟩
      rw [Nat.toDigits_of_base_le (by omega) (by omega), hds]
      rfl

/-- **The decimal digits of a number read back as the number**, when it fits 64 bits and is
followed by a byte that is not a digit. -/
theorem integer_at {m : Nat} (hm : m ≤ wordMax) {b : UInt8} {rest : List UInt8}
    (h : remaining src i = (Nat.toDigits 10 m).map asciiByte ++ b :: rest) (hb : isDigit b = false) :
    (integer positive).at src i = (numberTail positive m).at src (i + (Nat.toDigits 10 m).length) := by
  have hval := Nat.ofDigitChars_toDigits (b := 10) (n := m) (by omega) (Nat.le_refl _)
  have hds : ∀ d ∈ Nat.toDigits 10 m, d.isDigit = true :=
    fun d hd => Nat.isDigit_of_mem_toDigits (by omega) (by omega) hd
  rcases Nat.eq_zero_or_pos m with rfl | hpos
  · -- a lone zero, which no digit may follow
    rw [Nat.toDigits_zero] at h ⊢
    rw [integer, at_bind_ok _ _ (next_of_remaining h)]
    show (if asciiByte '0' == 48 then _ else _ : ReadM ReadNumber).at src (i + 1) = _
    rw [if_pos (by decide), at_bind_ok _ _ (peek_of_remaining (remaining_succ h))]
    simp only [hb, Bool.false_eq_true, if_false]
    rfl
  · obtain ⟨d, ds, hdd, hd0⟩ := toDigits_head hpos
    rw [hdd] at h hds hval ⊢
    rw [List.map_cons, List.cons_append] at h
    obtain ⟨hdig, hdv⟩ := isDigit_asciiByte (hds d (List.mem_cons_self ..))
    have hd := digit_toNat (hds d (List.mem_cons_self ..))
    have hne : (asciiByte d == 48) = false := by
      rw [beq_eq_false_iff_ne]
      intro he
      have := congrArg UInt8.toNat he
      rw [UInt8.toNat_ofNat'] at this
      exact hd0 (Char.toNat_inj.1 (by simp at this ⊢; omega))
    have hlen : ds.length ≤ src.size := by
      have := congrArg List.length h
      rw [length_remaining] at this
      simp at this
      omega
    have hfuel : src.size + 1 = (src.size - ds.length + 1) + ds.length := by omega
    rw [Nat.ofDigitChars_cons, Nat.mul_zero, Nat.zero_add, ← hdv] at hval
    have h₁ := remaining_succ h
    rw [integer, at_bind_ok _ _ (next_of_remaining h)]
    show (if asciiByte d == 48 then _ else if isDigit (asciiByte d) then _ else _ : ReadM ReadNumber).at src (i + 1) = _
    rw [hne, hdig]
    simp only [Bool.false_eq_true, if_false, if_true]
    rw [at_bind_ok _ _ (at_bind_ok _ _ (at_read src (i + 1)) _), hfuel,
      integer_go_digits positive (fun e he => hds e (List.mem_cons_of_mem _ he)) (by rw [hval]; exact hm) h₁,
      hval]
    have h₂ := remaining_append h₁
    rw [List.length_map] at h₂
    rw [integer_go_stop positive h₂ hb, List.length_cons, Nat.add_assoc, Nat.add_comm 1]

end Integers

/-- The bytes of the decimal form of an integer: a minus sign when it is negative, then the
digits of its magnitude. -/
theorem toString_int_bytes (n : Int) :
    (toString n).toUTF8.data.toList = (if n < 0 then [45] else []) ++ (Nat.toDigits 10 n.natAbs).map asciiByte := by
  have digits : ∀ m : Nat, (Nat.repr m).toByteArray.data.toList = (Nat.toDigits 10 m).map asciiByte := fun m => by
    rw [Nat.repr_eq_ofList_toDigits, String.toByteArray_ofList, List.utf8Encode,
      List.toList_data_toByteArray,
      utf8_of_digits fun d hd => Nat.isDigit_of_mem_toDigits (by omega) (by omega) hd]
  cases n with
  | ofNat m =>
    rw [if_neg (by rw [Int.ofNat_eq_natCast]; omega), List.nil_append]
    exact digits m
  | negSucc m =>
    rw [if_pos (Int.negSucc_lt_zero m), Int.natAbs_negSucc]
    show (("-" ++ Nat.repr (m + 1)).toUTF8).data.toList = _
    rw [String.toUTF8_eq_toByteArray, String.toByteArray_append, ByteArray.toList_data_append, digits]
    rfl

section IntegerValue

variable {src : ByteArray} {i : Nat}

/-- **The decimal form of a 64-bit integer reads back as it**, when followed by a byte that
cannot continue a number. -/
theorem integerValue_at (n : Int) (hlo : -2 ^ 63 ≤ n) (hhi : n < 2 ^ 63) {b : UInt8} {rest : List UInt8}
    (h : remaining src i = (toString n).toUTF8.data.toList ++ b :: rest) (hb : isDigit b = false) (hp : b ≠ 46)
    (he : b ≠ 101) (hE : b ≠ 69) :
    integerValue.at src i = (.ok n, i + (toString n).toUTF8.data.toList.length) := by
  rw [toString_int_bytes] at h ⊢
  have hmax : n.natAbs ≤ wordMax := by rw [show wordMax = 2 ^ 64 - 1 from rfl]; omega
  obtain ⟨d, ds, hdd⟩ := List.exists_cons_of_ne_nil (Nat.toDigits_ne_nil (n := n.natAbs) (b := 10))
  -- the leading digit of the magnitude
  have hd : d.isDigit = true := Nat.isDigit_of_mem_toDigits (by omega) (by omega) (hdd ▸ List.mem_cons_self ..)
  have hdig := (isDigit_asciiByte hd).1
  by_cases hneg : n < 0
  · -- a minus sign, then the digits of the magnitude
    rw [if_pos hneg, List.cons_append, List.nil_append] at h
    rw [if_pos hneg, integerValue, at_bind_ok _ _ (skipBlank_of_remaining h rfl)]
    dsimp only
    have h₂ := remaining_append (remaining_succ h)
    rw [List.length_map] at h₂
    have hint : (integer false).at src (i + 1) =
        (.ok (.signed (-(n.natAbs : Int))), i + 1 + (Nat.toDigits 10 n.natAbs).length) := by
      rw [integer_at false hmax (remaining_succ h) hb, numberTail_at false h₂ hp he hE n.natAbs]
      simp only [Bool.false_eq_true, if_false]
      rw [if_neg (by simp; omega)]
    rw [if_pos (by decide : ((45 : UInt8) == 45) = true), at_bind_ok _ _ (at_eat src i), at_bind_ok _ _ hint]
    simp only [List.length_append, List.length_cons, List.length_nil, List.length_map]
    show ((Except.ok (-(n.natAbs : Int)) : Except ReadError Int), _) = _
    rw [show -(n.natAbs : Int) = n by omega, Nat.add_assoc, Nat.add_comm 1]
  · -- the digits alone
    rw [if_neg hneg, List.nil_append] at h
    rw [if_neg hneg, List.nil_append]
    have h' := h
    rw [hdd, List.map_cons, List.cons_append] at h'
    obtain ⟨hblank, hminus⟩ := asciiByte_digit_ne hd
    rw [integerValue, at_bind_ok _ _ (skipBlank_of_remaining h' hblank)]
    dsimp only
    rw [hminus, hdig]
    simp only [Bool.false_eq_true, if_false, if_true]
    have h₂ := remaining_append h
    rw [List.length_map] at h₂
    have hint : (integer true).at src i = (.ok (.unsigned n.natAbs), i + (Nat.toDigits 10 n.natAbs).length) := by
      rw [integer_at true hmax h hb, numberTail_at true h₂ hp he hE n.natAbs]
      rfl
    rw [at_bind_ok _ _ hint, List.length_map]
    show (if n.natAbs < Nat.pow 2 63 then _ else _ : ReadM Int).at src _ = _
    rw [if_pos (by rw [Nat.pow_eq]; omega)]
    show ((Except.ok (n.natAbs : Int) : Except ReadError Int), _) = _
    rw [show (n.natAbs : Int) = n by omega]

end IntegerValue


/-! ## Records -/

/-- The bytes of a text. -/
abbrev bytes (s : String) : List UInt8 := s.toUTF8.data.toList

theorem bytes_append (s t : String) : bytes (s ++ t) = bytes s ++ bytes t := by
  simp only [bytes, String.toUTF8_eq_toByteArray, String.toByteArray_append, ByteArray.toList_data_append]


/-! ## Values of a shape -/

section Values

variable {src : ByteArray} {i : Nat}

/-- A quoted string reads back as the string, ending after its closing quote. -/
theorem textValue_quote (expecting s : String) {rest : List UInt8} (h : remaining src i = bytes (quote s) ++ rest) :
    (textValue expecting).at src i = (.ok s, i + (bytes (quote s)).length) := by
  rw [bytes, quote_bytes] at h ⊢
  simp only [List.cons_append, List.append_assoc] at h
  have hl : i + (34 :: s.toList.flatMap charBytes ++ [34]).length = i + 1 + (s.toList.flatMap charBytes).length + 1 := by
    simp only [List.length_cons, List.length_append, List.length_nil]
    omega
  rw [hl, textValue_at _ s h]

theorem shapedValue_text (s : String) {rest : List UInt8} (h : remaining src i = bytes (quote s) ++ rest) :
    (shapedValue .text).at src i = (.ok (.str s), i + (bytes (quote s)).length) := by
  rw [shapedValue, at_bind_ok _ _ (textValue_quote _ s h)]
  rfl

/-- A quoted string read through a conversion gives what the conversion gives for it, a refusal
being a data problem. -/
theorem shapedValue_converted (conv : String → Except String String) (s : String) {rest : List UInt8}
    (h : remaining src i = bytes (quote s) ++ rest) :
    (shapedValue (.converted conv)).at src i =
      (match conv s with
        | .ok t => .ok (.str t)
        | .error m => .error (dataError m), i + (bytes (quote s)).length) := by
  rw [shapedValue, at_bind_ok _ _ (textValue_quote _ s h)]
  rcases conv s with m | t <;> rfl

/-- A quoted name of a choice reads back as itself. -/
theorem shapedValue_choice {names : List String} {s : String} (hs : s ∈ names) {rest : List UInt8}
    (h : remaining src i = bytes (quote s) ++ rest) :
    (shapedValue (.choice names)).at src i = (.ok (.str s), i + (bytes (quote s)).length) := by
  have hq : remaining src i = 34 :: (s.toList.flatMap charBytes ++ 34 :: rest) := by
    rw [h, bytes, quote_bytes]
    simp
  have hname : (choiceName names).at src i = (.ok s, i + (bytes (quote s)).length) := by
    rw [choiceName, at_bind_ok _ _ (textValue_quote _ s h), if_pos (List.contains_iff_mem.2 hs)]
    rfl
  show (choiceValue names >>= fun s => pure (Json.str s)).at src i = _
  rw [at_bind_ok _ _ ?_]
  · rfl
  rw [choiceValue, at_bind_ok _ _ (skipBlank_of_remaining hq rfl)]
  split
  · next heq => exact absurd heq (by decide)
  · exact hname
  · next _ _ _ hne heq => exact absurd (Option.some.inj heq).symm hne
  · next heq => exact absurd heq (by decide)

/-- The decimal form of a 64-bit integer reads back as it before a byte that cannot continue
a number. -/
theorem shapedValue_integer (n : Int) (hlo : -2 ^ 63 ≤ n) (hhi : n < 2 ^ 63) {b : UInt8} {rest : List UInt8}
    (h : remaining src i = bytes (toString n) ++ b :: rest) (hb : isDigit b = false) (hp : b ≠ 46)
    (he : b ≠ 101) (hE : b ≠ 69) :
    (shapedValue .integer).at src i = (.ok (.int n), i + (bytes (toString n)).length) := by
  rw [shapedValue, at_bind_ok _ _ (integerValue_at n hlo hhi h hb hp he hE)]
  rfl

/-- A value's written form, followed by a comma or a closing brace, reads back as the value
under a shape. -/
def ValueShape.ReadsBack (shape : ValueShape) (v : Json) : Prop :=
  ∀ (src : ByteArray) (i : Nat) (b : UInt8) (rest : List UInt8), b = 44 ∨ b = 125 →
    remaining src i = bytes (write v) ++ b :: rest →
    (shapedValue shape).at src i = (.ok v, i + (bytes (write v)).length)

theorem readsBack_text (s : String) : ValueShape.ReadsBack .text (.str s) := by
  intro src i b rest _ h
  rw [write] at h ⊢
  exact shapedValue_text s h

theorem readsBack_converted {conv : String → Except String String} {s : String} (hs : conv s = .ok s) :
    ValueShape.ReadsBack (.converted conv) (.str s) := by
  intro src i b rest _ h
  rw [write] at h ⊢
  rw [shapedValue_converted conv s h, hs]

theorem readsBack_choice {names : List String} {s : String} (hs : s ∈ names) :
    ValueShape.ReadsBack (.choice names) (.str s) := by
  intro src i b rest _ h
  rw [write] at h ⊢
  exact shapedValue_choice hs h

theorem readsBack_integer {n : Int} (hlo : -2 ^ 63 ≤ n) (hhi : n < 2 ^ 63) : ValueShape.ReadsBack .integer (.int n) := by
  intro src i b rest hb h
  rw [write] at h ⊢
  -- a comma or a brace cannot continue a number
  rcases hb with rfl | rfl <;> exact shapedValue_integer n hlo hhi h (by decide) (by decide) (by decide) (by decide)

end Values

section Records

variable {src : ByteArray} {i : Nat}

theorem inMember_ok {α : Type} (key : String) {x : ReadM α} {a : α} {j : Nat} (h : x.at src i = (.ok a, j)) :
    (inMember key x).at src i = (.ok a, j) := by
  rw [inMember, at_tryCatch, h]

/-- A member's colon, then its value. -/
theorem colonValue_at (key : String) (shape : ValueShape) {rest : List UInt8} (h : remaining src i = 58 :: rest)
    {v : Json} {j : Nat} (hv : (shapedValue shape).at src (i + 1) = (.ok v, j)) :
    (inMember key do
      match ← skipBlank with
      | some 58 => do eat; shapedValue shape
      | some _ => do failAhead .expectedColon; shapedValue shape
      | none => do failAhead .eofObject; shapedValue shape).at src i = (.ok v, j) := by
  refine inMember_ok key ?_
  rw [at_bind_ok _ _ (skipBlank_of_remaining h rfl)]
  split
  · rw [at_bind_ok _ _ (at_eat src i), hv]
  · next _ hne heq => exact absurd (Option.some.inj heq).symm hne
  · next heq => exact absurd heq (by decide)

theorem recordMembers_first (r : RecordShape) (found : List (String × Json)) (key : String) {f : FieldSpec}
    (hf : r.fields.find? (·.name == key) = some f) (hnew : found.any (·.1 == key) = false)
    {v : Json} {j : Nat} {rest : List UInt8}
    (h : remaining src i = bytes (quote key) ++ 58 :: rest)
    (hv : (shapedValue f.shape).at src (i + (bytes (quote key)).length + 1) = (.ok v, j)) (fuel : Nat) :
    (recordMembers r (fuel + 1) true found).at src i = (recordMembers r fuel false (found ++ [(key, v)])).at src j := by
  rw [bytes, quote_bytes] at h
  simp only [List.cons_append, List.append_assoc, List.nil_append] at h
  rw [recordMembers, at_bind_ok _ _ (skipBlank_of_remaining h rfl)]
  split
  · next heq => exact absurd heq (by decide)
  · next heq => exact absurd heq (by decide)
  · next _ c _ heq =>
    obtain rfl : c = 34 := (Option.some.inj heq).symm
    simp only [Bool.not_true, Bool.and_false, Bool.false_eq_true, if_false, if_true]
    rw [at_bind_ok _ _ (at_pure _ _ _)]
    split
    · rw [at_bind_ok _ _ (at_eat src i), at_bind_ok _ _ (string_at key (remaining_succ h)), hf]
      dsimp only
      rw [hnew]
      simp only [Bool.false_eq_true, if_false]
      have h₅ := remaining_append (remaining_succ h)
      erw [at_bind_ok _ _ (colonValue_at key f.shape (remaining_succ h₅) ?_)]
      rw [← hv]
      congr 1
      simp only [bytes, quote_bytes, List.length_cons, List.length_append, List.length_nil]
      omega
    · next heq => exact absurd heq (by decide)
    · next _ _ hne _ heq => exact absurd (Option.some.inj heq).symm hne
    · next heq => exact absurd heq (by decide)

/-- A later member, after its comma. -/
theorem recordMembers_next (r : RecordShape) (found : List (String × Json)) (key : String) {f : FieldSpec}
    (hf : r.fields.find? (·.name == key) = some f) (hnew : found.any (·.1 == key) = false)
    {v : Json} {j : Nat} {rest : List UInt8}
    (h : remaining src i = 44 :: bytes (quote key) ++ 58 :: rest)
    (hv : (shapedValue f.shape).at src (i + 1 + (bytes (quote key)).length + 1) = (.ok v, j)) (fuel : Nat) :
    (recordMembers r (fuel + 1) false found).at src i = (recordMembers r fuel false (found ++ [(key, v)])).at src j := by
  rw [bytes, quote_bytes] at h
  simp only [List.cons_append, List.append_assoc, List.nil_append] at h
  have h₁ := remaining_succ h
  rw [recordMembers, at_bind_ok _ _ (skipBlank_of_remaining h rfl)]
  split
  · next heq => exact absurd heq (by decide)
  · next heq => exact absurd heq (by decide)
  · next _ c _ heq =>
    obtain rfl : c = 44 := (Option.some.inj heq).symm
    simp only [Bool.not_false, Bool.and_true]
    rw [if_pos (by decide : ((44 : UInt8) == 44) = true), at_bind_ok _ _ (at_eat src i),
      at_bind_ok _ _ (skipBlank_of_remaining h₁ rfl)]
    split
    · rw [at_bind_ok _ _ (at_eat src (i + 1)), at_bind_ok _ _ (string_at key (remaining_succ h₁)), hf]
      dsimp only
      rw [hnew]
      simp only [Bool.false_eq_true, if_false]
      have h₅ := remaining_append (remaining_succ h₁)
      erw [at_bind_ok _ _ (colonValue_at key f.shape (remaining_succ h₅) ?_)]
      rw [← hv]
      congr 1
      simp only [bytes, quote_bytes, List.length_cons, List.length_append, List.length_nil]
      omega
    · next heq => exact absurd heq (by decide)
    · next _ _ hne _ heq => exact absurd (Option.some.inj heq).symm hne
    · next heq => exact absurd heq (by decide)

/-- The closing brace ends the members with the record of the fields found. -/
theorem recordMembers_close (r : RecordShape) (found : List (String × Json)) {rest : List UInt8}
    (h : remaining src i = 125 :: rest) {j : Json} (hc : completeFields r found = .ok j) (first : Bool) (fuel : Nat) :
    (recordMembers r (fuel + 1) first found).at src i = (.ok j, i) := by
  rw [recordMembers, at_bind_ok _ _ (skipBlank_of_remaining h rfl)]
  dsimp only
  rw [hc]
  rfl

theorem closeObject_at {rest : List UInt8} (h : remaining src i = 125 :: rest) :
    closeObject.at src i = (.ok (), i + 1) := by
  rw [closeObject, at_bind_ok _ _ (skipBlank_of_remaining h rfl)]
  rfl

/-- A record written as an object: its members, then its closing brace. -/
theorem recordValue_object (r : RecordShape) {rest : List UInt8} (h : remaining src i = 123 :: rest) {v : Json}
    {j : Nat} (hfields : (recordMembers r (src.size + 1) true []).at src (i + 1) = (.ok v, j)) {rest' : List UInt8}
    (hclose : remaining src j = 125 :: rest') :
    (recordValue r).at src i = (.ok v, j + 1) := by
  rw [recordValue, at_bind_ok _ _ (skipBlank_of_remaining h rfl)]
  split
  · have hb : budget.at src (i + 1) = (.ok (src.size + 1), i + 1) := rfl
    rw [at_bind_ok _ _ (at_eat src i), at_bind, at_tryCatch, at_bind, at_bind, hb]
    dsimp only
    rw [hfields]
    dsimp only
    rw [at_pure]
    dsimp only
    rw [at_bind, at_tryCatch, at_bind, closeObject_at hclose]
    rfl
  · next heq => exact absurd heq (by decide)
  · next _ _ hne _ heq => exact absurd (Option.some.inj heq).symm hne
  · next heq => exact absurd heq (by decide)


/-- A member a record reads back: the record has a field of its name, whose shape reads back
the member's value. -/
def RecordShape.ReadsBack (r : RecordShape) (m : String × Json) : Prop :=
  ∃ f, r.fields.find? (·.name == m.1) = some f ∧ f.shape.ReadsBack m.2

/-- The written form of a member: its quoted name, a colon and its value. -/
def memberBytes (m : String × Json) : List UInt8 := bytes (quote m.1) ++ 58 :: bytes (write m.2)

theorem bytes_colon : bytes ":" = [58] := rfl

theorem bytes_comma : bytes "," = [44] := rfl

theorem bytes_writeMembers (m : String × Json) (ms : List (String × Json)) :
    bytes (writeMembers (m :: ms)) = memberBytes m ++ ms.flatMap (44 :: memberBytes ·) := by
  induction ms generalizing m with
  | nil =>
    obtain ⟨k, v⟩ := m
    simp only [writeMembers, bytes_append, memberBytes, List.flatMap_nil, List.append_nil, bytes_colon,
      List.append_assoc, List.singleton_append]
  | cons m' ms ih =>
    obtain ⟨k, v⟩ := m
    obtain ⟨k', v'⟩ := m'
    simp only [writeMembers, bytes_append] at ih ⊢
    rw [ih]
    simp only [memberBytes, List.flatMap_cons, List.append_assoc, bytes_colon, bytes_comma, List.cons_append,
      List.nil_append]

theorem length_le_members (ms : List (String × Json)) : ms.length ≤ (ms.flatMap (44 :: memberBytes ·)).length := by
  induction ms with
  | nil => simp
  | cons m ms ih =>
    simp only [List.flatMap_cons, List.length_append, List.length_cons]
    omega

/-- After the members, a comma or the closing brace. -/
theorem members_next_byte (ms : List (String × Json)) (rest : List UInt8) :
    ∃ b rest', (b = 44 ∨ b = 125) ∧ ms.flatMap (44 :: memberBytes ·) ++ 125 :: rest = b :: rest' := by
  cases ms with
  | nil => exact ⟨125, rest, .inr rfl, rfl⟩
  | cons m ms => exact ⟨44, memberBytes m ++ (ms.flatMap (44 :: memberBytes ·) ++ 125 :: rest), .inl rfl, by simp⟩

theorem fresh_of_nodup {found : List (String × Json)} {m : String × Json} {ms : List (String × Json)}
    (h : ((found ++ m :: ms).map Prod.fst).Nodup) : found.any (·.1 == m.1) = false := by
  rw [List.map_append, List.nodup_append] at h
  rw [List.any_eq_false]
  intro x hx hxm
  exact h.2.2 x.1 (List.mem_map_of_mem hx) m.1 (List.mem_cons_self ..) (beq_iff_eq.mp hxm)

/-- The members after the first, each after its comma, read back one by one up to the
closing brace. -/
theorem recordMembers_later (r : RecordShape) {v : Json} (ms : List (String × Json)) :
    ∀ (found : List (String × Json)), (∀ m ∈ ms, r.ReadsBack m) → ((found ++ ms).map Prod.fst).Nodup →
      completeFields r (found ++ ms) = .ok v →
      ∀ {i : Nat} {rest : List UInt8}, remaining src i = ms.flatMap (44 :: memberBytes ·) ++ 125 :: rest →
      ∀ fuel, (recordMembers r (fuel + ms.length + 1) false found).at src i =
        (.ok v, i + (ms.flatMap (44 :: memberBytes ·)).length) := by
  induction ms with
  | nil =>
    intro found _ _ hc i rest h fuel
    rw [List.append_nil] at hc
    exact recordMembers_close r found h hc false fuel
  | cons m ms ih =>
    intro found hr hnd hc i rest h fuel
    obtain ⟨f, hf, hread⟩ := hr m (List.mem_cons_self ..)
    obtain ⟨b, rest', hb, htail⟩ := members_next_byte ms rest
    have hm : remaining src i = 44 :: bytes (quote m.1) ++ 58 ::
        (bytes (write m.2) ++ (ms.flatMap (44 :: memberBytes ·) ++ 125 :: rest)) := by
      rw [h]
      simp [memberBytes]
    -- the value starts after the comma, the quoted name and the colon
    have hval := remaining_succ (remaining_append (remaining_succ hm))
    have hafter := remaining_append hval
    rw [htail] at hval
    rw [List.length_cons, ← Nat.add_assoc,
      recordMembers_next r found m.1 hf (fresh_of_nodup hnd) hm (hread src _ b rest' hb hval), Prod.eta,
      ih (found ++ [m]) (fun x hx => hr x (List.mem_cons_of_mem _ hx)) (by simpa using hnd) (by simpa using hc)
        hafter fuel]
    simp only [memberBytes, List.flatMap_cons, List.length_append, List.length_cons]
    congr 1
    omega

/-- The members of an object, as the writer writes them, read back up to the closing brace. -/
theorem recordMembers_written (r : RecordShape) {v : Json} (m : String × Json) (ms : List (String × Json))
    (hr : ∀ x ∈ m :: ms, r.ReadsBack x) (hnd : ((m :: ms).map Prod.fst).Nodup) (hc : completeFields r (m :: ms) = .ok v)
    {rest : List UInt8} (h : remaining src i = bytes (writeMembers (m :: ms)) ++ 125 :: rest) (fuel : Nat) :
    (recordMembers r (fuel + ms.length + 2) true []).at src i = (.ok v, i + (bytes (writeMembers (m :: ms))).length) := by
  obtain ⟨f, hf, hread⟩ := hr m (List.mem_cons_self ..)
  obtain ⟨b, rest', hb, htail⟩ := members_next_byte ms rest
  rw [bytes_writeMembers] at h ⊢
  have hm : remaining src i = bytes (quote m.1) ++ 58 ::
      (bytes (write m.2) ++ (ms.flatMap (44 :: memberBytes ·) ++ 125 :: rest)) := by
    rw [h]
    simp [memberBytes]
  have hval := remaining_succ (remaining_append hm)
  have hafter := remaining_append hval
  rw [htail] at hval
  rw [show fuel + ms.length + 2 = (fuel + ms.length + 1) + 1 by omega,
    recordMembers_first r [] m.1 hf rfl hm (hread src _ b rest' hb hval), List.nil_append, Prod.eta,
    recordMembers_later r ms [m] (fun x hx => hr x (List.mem_cons_of_mem _ hx)) hnd hc hafter fuel]
  simp only [memberBytes, List.length_append, List.length_cons]
  congr 1
  omega

/-- **An object, as the writer writes it, reads back through a record shape** that reads
back each of its members, when its member names are distinct: the result is the record's
fields completed from the members. -/
theorem recordValue_written (r : RecordShape) {v : Json} (ms : List (String × Json)) (hr : ∀ x ∈ ms, r.ReadsBack x)
    (hnd : (ms.map Prod.fst).Nodup) (hc : completeFields r ms = .ok v) {rest : List UInt8}
    (h : remaining src i = bytes (write (.obj ms)) ++ rest) :
    (recordValue r).at src i = (.ok v, i + (bytes (write (.obj ms))).length) := by
  rw [write, bytes_append, bytes_append] at h ⊢
  have hopen : bytes "\x7b" = [123] := rfl
  have hclose : bytes "\x7d" = [125] := rfl
  rw [hopen, hclose] at h ⊢
  simp only [List.cons_append, List.nil_append, List.append_assoc] at h
  have hend : remaining src (i + 1 + (bytes (writeMembers ms)).length) = 125 :: rest :=
    remaining_append (remaining_succ h)
  have hlen : i + ([123] ++ bytes (writeMembers ms) ++ [125]).length =
      i + 1 + (bytes (writeMembers ms)).length + 1 := by
    simp only [List.length_append, List.length_cons, List.length_nil]
    omega
  rw [hlen]
  cases ms with
  | nil =>
    -- the empty object: the closing brace right after the opening one
    refine recordValue_object r h ?_ hend
    exact recordMembers_close r [] (remaining_succ h) hc true src.size
  | cons m ms =>
    have hsize : ms.length + 1 ≤ src.size := by
      have hl := congrArg List.length h
      rw [length_remaining, bytes_writeMembers] at hl
      simp only [List.length_cons, List.length_append] at hl
      have := length_le_members ms
      have : 0 < (memberBytes m).length := by
        simp only [memberBytes, List.length_append, List.length_cons]
        omega
      omega
    refine recordValue_object r h ?_ hend
    rw [show src.size + 1 = (src.size - ms.length - 1) + ms.length + 2 by omega]
    exact recordMembers_written r m ms hr hnd hc (remaining_succ h) _

end Records


/-! ## Documents -/

section Documents

variable {text : String} {shape : Shape}

theorem remaining_toUTF8 (text : String) : remaining text.toUTF8 0 = bytes text ++ [] := by
  rw [List.append_nil]
  rfl

/-- A document reads as its value when reading the value leaves nothing but the end of the text. -/
theorem readDocument_of_at {v : Json} {j : Nat}
    (hv : (match shape with
      | .value s => shapedValue s
      | .record r => recordValue r).at text.toUTF8 0 = (.ok v, j))
    (hend : remaining text.toUTF8 j = []) : readDocument text shape = .ok v := by
  show ((_ : ReadM Json).at text.toUTF8 0).1 = _
  -- the reader binds the value inside each branch of the shape
  cases shape <;>
  · dsimp only at hv ⊢
    rw [at_bind_ok _ _ hv, at_bind_ok _ _ (skipBlank_of_remaining_nil hend)]
    rfl

/-- A document fails as its value does. -/
theorem readDocument_of_at_error {e : ReadError} {j : Nat}
    (hv : (match shape with
      | .value s => shapedValue s
      | .record r => recordValue r).at text.toUTF8 0 = (.error e, j)) : readDocument text shape = .error e := by
  show ((_ : ReadM Json).at text.toUTF8 0).1 = _
  cases shape <;>
  · dsimp only at hv ⊢
    rw [at_bind_error _ _ hv]

/-- **The writer's objects read back as documents of a record shape** that reads back each
of their members, when their member names are distinct. -/
theorem readDocument_written (r : RecordShape) {v : Json} (ms : List (String × Json)) (hr : ∀ x ∈ ms, r.ReadsBack x)
    (hnd : (ms.map Prod.fst).Nodup) (hc : completeFields r ms = .ok v) :
    readDocument (write (.obj ms)) (.record r) = .ok v :=
  readDocument_of_at (recordValue_written r ms hr hnd hc (remaining_toUTF8 _)) (remaining_append (remaining_toUTF8 _))

/-- A quoted string, read through a conversion, gives what the conversion gives for it. -/
theorem readDocument_quote_converted (conv : String → Except String String) (s : String) :
    readDocument (quote s) (.value (.converted conv)) =
      match conv s with
      | .ok t => .ok (.str t)
      | .error m => .error (dataError m) := by
  have hv := shapedValue_converted conv s (remaining_toUTF8 (quote s))
  rcases hp : conv s with m | t <;> simp only [hp] at hv
  · exact readDocument_of_at_error hv
  · exact readDocument_of_at hv (remaining_append (remaining_toUTF8 _))

end Documents

/-! ## The format the program runs with -/

/-- The values a shape reads back as themselves: any string as text, an integer of a signed
64-bit word, a string its conversion keeps as it is, and a name of a choice. -/
def ValueShape.Fits : ValueShape → Json → Prop
  | .text, .str _ => True
  | .integer, .int n => -2 ^ 63 ≤ n ∧ n < 2 ^ 63
  | .converted conv, .str s => conv s = .ok s
  | .choice names, .str s => s ∈ names
  | _, _ => False

/-- What a JSON format is trusted to do with what it wrote. Read through a conversion, a
written string gives what the conversion gives for it; read as a record, an object written with
the record's fields in order, under distinct names, each value fitting its field's shape, gives
the object back. -/
structure Codec.Faithful (J : Codec) : Prop where
  /-- A written string read through a conversion succeeds exactly with what the conversion gives. -/
  converted : ∀ (conv : String → Except String String) (s : String) (v : Json),
    J.read (J.write (.str s)) (.value (.converted conv)) = .ok v ↔ ∃ t, conv s = .ok t ∧ v = .str t
  /-- An object holding a record's fields in order reads back as itself. -/
  record : ∀ (r : RecordShape) (ms : List (String × Json)), (ms.map Prod.fst).Nodup →
    List.Forall₂ (fun m f => m.1 = f.name ∧ f.shape.Fits m.2) ms r.fields →
    J.read (J.write (.obj ms)) (.record r) = .ok (.obj ms)

theorem readsBack_of_fits {shape : ValueShape} {v : Json} (h : shape.Fits v) : shape.ReadsBack v := by
  cases shape <;> cases v <;> simp only [ValueShape.Fits] at h
  · exact readsBack_text _
  · exact readsBack_integer h.1 h.2
  · exact readsBack_converted h
  · exact readsBack_choice h

section Members

variable {ms : List (String × Json)}

/-- Among distinct member names, a member's name finds the member. -/
theorem find?_name_of_nodup (hnd : (ms.map Prod.fst).Nodup) {m : String × Json} (hm : m ∈ ms) :
    ms.find? (·.1 == m.1) = some m := by
  induction ms with
  | nil => cases hm
  | cons x ms ih =>
    rw [List.map_cons, List.nodup_cons] at hnd
    rw [List.find?_cons]
    rcases List.mem_cons.1 hm with rfl | hm
    · simp
    · have hne : x.1 ≠ m.1 := fun he => hnd.1 (he ▸ List.mem_map_of_mem hm)
      simp only [beq_false_of_ne hne]
      exact ih hnd.2 hm

/-- Fields laid out in order as members with distinct names: each member's name finds its own
field. -/
theorem find?_field_of_forall₂ {fs : List FieldSpec} {P : String × Json → FieldSpec → Prop}
    (h : List.Forall₂ (fun m f => m.1 = f.name ∧ P m f) ms fs) (hnd : (ms.map Prod.fst).Nodup) :
    ∀ m ∈ ms, ∃ f, fs.find? (·.name == m.1) = some f ∧ P m f := by
  induction h with
  | nil => nofun
  | @cons m f ms fs hmf _ ih =>
    rw [List.map_cons, List.nodup_cons] at hnd
    intro x hx
    rw [List.find?_cons]
    rcases List.mem_cons.1 hx with rfl | hx
    · simp only [hmf.1, beq_self_eq_true]
      exact ⟨f, rfl, hmf.2⟩
    · have hne : f.name ≠ x.1 := fun he => hnd.1 (hmf.1 ▸ he ▸ List.mem_map_of_mem hx)
      simp only [beq_false_of_ne hne]
      exact ih hnd.2 x hx

theorem mapM_ok {α β ε : Type} {g : α → Except ε β} :
    ∀ (as : List α) (bs : List β), List.Forall₂ (fun a b => g a = .ok b) as bs → as.mapM g = .ok bs
  | [], [], .nil => rfl
  | _ :: as, _ :: bs, .cons h hs => by
    rw [List.mapM_cons, h, mapM_ok as bs hs]
    rfl

/-- The fields of a record, laid out in order as members with distinct names, complete to the
object of those members. -/
theorem completeFields_written {r : RecordShape} (hnd : (ms.map Prod.fst).Nodup)
    (h : List.Forall₂ (fun m f => m.1 = f.name) ms r.fields) : completeFields r ms = .ok (.obj ms) := by
  unfold completeFields
  rw [mapM_ok r.fields ms ?_]
  · rfl
  refine List.forall₂_iff_zip.2 ⟨h.length_eq.symm, fun {f m} hz => ?_⟩
  have hname : m.1 = f.name := (List.forall₂_iff_zip.1 h.flip).2 hz
  rw [← hname, find?_name_of_nodup hnd (List.of_mem_zip hz).2]
  obtain ⟨k, v⟩ := m
  subst hname
  rfl

end Members

@[simp] theorem codec_write : codec.write = write := rfl

@[simp] theorem codec_read : codec.read = readDocument := rfl

/-- **The format the program runs with is faithful.** -/
theorem codec_faithful : codec.Faithful where
  converted conv s v := by
    rw [codec_write, codec_read, write, readDocument_quote_converted]
    rcases conv s with m | t
    · simp
    · simp [eq_comm]
  record r ms hnd h := by
    rw [codec_write, codec_read]
    refine readDocument_written r ms ?_ hnd (completeFields_written hnd (h.imp fun _ _ hmf => hmf.1))
    intro x hx
    obtain ⟨f, hf, hfits⟩ := find?_field_of_forall₂ h hnd x hx
    exact ⟨f, hf, readsBack_of_fits hfits⟩

end AccountRegistry.Json
