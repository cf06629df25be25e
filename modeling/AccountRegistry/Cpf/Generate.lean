import AccountRegistry.Cpf

/-!
Making tax ids from random bytes, for tests that need fresh ones. The first nine digits are
the first nine bytes of a UUID modulo 10; if they would all be equal the first is advanced by
one, since a repeated sequence is never valid. The two check digits follow, each computed over
the digits before it, and the digits are written out in decimal.
-/

set_option autoImplicit false

namespace AccountRegistry.Cpf

/-- The check digit of a digit list: weights from one more than its length down to 2, ten
times the weighted sum modulo 11, with 10 read as 0. -/
def generatedCheckDigit (ds : List Nat) : Nat :=
  let weights := (List.range ds.length).map fun i => ds.length + 1 - i
  let sum := (ds.zip weights).foldl (fun acc (d, w) => acc + d * w) 0
  let rest := sum * 10 % 11
  if rest = 10 then 0 else rest

/-- Advances the first digit of a repeated sequence by one, so that its digits are no longer
all equal; other sequences are kept. -/
def breakRepetition : List Nat → List Nat
  | d :: t => if allSame (d :: t) then (d + 1) % 10 :: t else d :: t
  | [] => []

/-- The first nine digits made from a UUID's bytes. -/
def bodyOfBytes (uuid : Vector UInt8 16) : List Nat :=
  breakRepetition ((uuid.toList.take 9).map (·.toNat % 10))

/-- A body followed by its two check digits, the second one computed over the first. -/
def withCheckDigits (body : List Nat) : List Nat :=
  let ds := body ++ [generatedCheckDigit body]
  ds ++ [generatedCheckDigit ds]

/-- The decimal texts of the numbers, one after another. -/
def decimalText (ds : List Nat) : String :=
  String.join (ds.map toString)

/-- The eleven digits made from a UUID's bytes. -/
def fromBytes (uuid : Vector UInt8 16) : String :=
  decimalText (withCheckDigits (bodyOfBytes uuid))

end AccountRegistry.Cpf
