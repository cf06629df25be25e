/-!
# Bytes as text

Decoding bytes that should be UTF-8, and `%xx` escapes.

`decodeLossy` keeps every well-formed sequence and puts one replacement character U+FFFD for
each maximal ill-formed part: a byte that cannot start a sequence, or a start byte with the
continuation bytes that fit it, cut short before the sequence is complete.
-/

set_option autoImplicit false

namespace AccountRegistry.Text

/-- The value of a hex digit. -/
def hexValue (c : Char) : Option Nat :=
  if '0' ≤ c && c ≤ '9' then some (c.toNat - '0'.toNat)
  else if 'a' ≤ c && c ≤ 'f' then some (c.toNat - 'a'.toNat + 10)
  else if 'A' ≤ c && c ≤ 'F' then some (c.toNat - 'A'.toNat + 10)
  else none

/-- Decodes `%xx` escapes in bytes; a `%` without two hex digits after it stays. -/
def percentBytes : List UInt8 → List UInt8
  | 37 :: a :: b :: rest =>
    match hexValue (Char.ofNat a.toNat), hexValue (Char.ofNat b.toNat) with
    | some x, some y => (x * 16 + y).toUInt8 :: percentBytes rest
    | _, _ => 37 :: percentBytes (a :: b :: rest)
  | b :: rest => b :: percentBytes rest
  | [] => []

/-- For a start byte of a multi-byte sequence: the number of continuation bytes, and the
range the first of them must lie in. -/
def sequenceOf (b : UInt8) : Option (Nat × UInt8 × UInt8) :=
  if 0xC2 ≤ b && b ≤ 0xDF then some (1, 0x80, 0xBF)
  else if b == 0xE0 then some (2, 0xA0, 0xBF)
  else if 0xE1 ≤ b && b ≤ 0xEC then some (2, 0x80, 0xBF)
  else if b == 0xED then some (2, 0x80, 0x9F)
  else if 0xEE ≤ b && b ≤ 0xEF then some (2, 0x80, 0xBF)
  else if b == 0xF0 then some (3, 0x90, 0xBF)
  else if 0xF1 ≤ b && b ≤ 0xF3 then some (3, 0x80, 0xBF)
  else if b == 0xF4 then some (3, 0x80, 0x8F)
  else none

/-- The continuation bytes at the front that fit a sequence: at most `need`, the first in
`lo ..= hi`, the others in `0x80 ..= 0xBF`. -/
def fitting (need : Nat) (lo hi : UInt8) : List UInt8 → List UInt8
  | [] => []
  | c :: rest =>
    match need with
    | 0 => []
    | n + 1 => if lo ≤ c && c ≤ hi then c :: fitting n 0x80 0xBF rest else []

/-- The character of a complete sequence: the start byte's payload bits, then six bits from
each continuation byte. -/
def sequenceChar (b : UInt8) (cont : List UInt8) : Char :=
  let lead := match cont.length with
    | 1 => b.toNat % 32
    | 2 => b.toNat % 16
    | _ => b.toNat % 8
  Char.ofNat (cont.foldl (fun acc c => acc * 64 + c.toNat % 64) lead)

/-- Decodes bytes, with a replacement character for each maximal ill-formed part. -/
def decodeLossy : List UInt8 → List Char
  | [] => []
  | b :: rest =>
    if b < 0x80 then Char.ofNat b.toNat :: decodeLossy rest
    else match sequenceOf b with
      | none => '�' :: decodeLossy rest
      | some (need, lo, hi) =>
        let cont := fitting need lo hi rest
        let c := if cont.length == need then sequenceChar b cont else '�'
        c :: decodeLossy (rest.drop cont.length)
termination_by bytes => bytes.length
decreasing_by all_goals simp only [List.length_cons, List.length_drop]; omega

/-- Bytes as text, lossily. -/
def lossyString (bytes : List UInt8) : String := String.ofList (decodeLossy bytes)

/-- Where bytes stop being UTF-8: the length of their well-formed start, and the length of
the ill-formed sequence after it, `none` when the bytes end inside a sequence. -/
structure Utf8Fault where
  validUpTo : Nat
  errorLength : Option Nat
  deriving DecidableEq, Repr

namespace Utf8Fault

/-- The text of a decoding fault. -/
def message (f : Utf8Fault) : String :=
  match f.errorLength with
  | some n => "invalid utf-8 sequence of " ++ toString n ++ " bytes from index " ++ toString f.validUpTo
  | none => "incomplete utf-8 byte sequence from index " ++ toString f.validUpTo

/-- The diagnostic form of a decoding fault. -/
def debugText (f : Utf8Fault) : String :=
  "Utf8Error \x7b valid_up_to: " ++ toString f.validUpTo ++ ", error_len: " ++
    (match f.errorLength with
      | some n => "Some(" ++ toString n ++ ")"
      | none => "None") ++ " \x7d"

end Utf8Fault

/-- The first fault of bytes that start at offset `start`: a byte that cannot start a
sequence is one bad byte, a start byte with too few fitting continuation bytes is bad with
those bytes, unless the bytes end first. -/
def firstFault : List UInt8 → Nat → Option Utf8Fault
  | [], _ => none
  | b :: rest, start =>
    if b < 0x80 then firstFault rest (start + 1)
    else match sequenceOf b with
      | none => some ⟨start, some 1⟩
      | some (need, lo, hi) =>
        let cont := fitting need lo hi rest
        if cont.length == need then firstFault (rest.drop need) (start + 1 + need)
        else if cont.length == rest.length then some ⟨start, none⟩
        else some ⟨start, some (cont.length + 1)⟩
termination_by bytes => bytes.length
decreasing_by all_goals simp only [List.length_cons, List.length_drop]; omega

/-- Bytes as text, or the first place where they are not UTF-8. -/
def decodeUtf8 (bytes : List UInt8) : Except Utf8Fault String :=
  match firstFault bytes 0 with
  | some f => .error f
  | none => .ok (lossyString bytes)

/-- A text with its `%xx` escapes decoded, which must leave UTF-8. -/
def decodeEscapes (s : String) : Except Utf8Fault String :=
  decodeUtf8 (percentBytes s.toUTF8.toList)

end AccountRegistry.Text
