/-!
Binary floating-point numbers, computed exactly: a finite value is `± m · 2 ^ e` with
the significand `m` below `2 ^ precision`. Every operation rounds its exact rational
result to the nearest representable value, a tie going to the even significand, and
results beyond the largest finite value become infinite.

The decimal text of a value is the shortest digit string that reads back to it, the
nearest to the value among those of that length; it is written positionally, never with
an exponent.
-/

set_option autoImplicit false

namespace AccountRegistry

/-- An IEEE binary interchange format. -/
structure BinaryFormat where
  /-- Significand bits, the hidden bit included. -/
  precision : Nat
  /-- The exponent of the smallest normal number, as in `2 ^ minExp`. -/
  minExp : Int
  /-- The exponent of the largest finite numbers. -/
  maxExp : Int

namespace BinaryFormat

/-- Single precision. -/
def single : BinaryFormat := ⟨24, -126, 127⟩

/-- Double precision. -/
def double : BinaryFormat := ⟨53, -1022, 1023⟩

/-- The exponent of the least significand unit of subnormal numbers. -/
def leastExp (f : BinaryFormat) : Int := f.minExp - (f.precision - 1 : Nat)

/-- The exponent of the least significand unit of the largest numbers. -/
def topExp (f : BinaryFormat) : Int := f.maxExp - (f.precision - 1 : Nat)

end BinaryFormat

/-- A value of a binary format. -/
inductive BinaryValue where
  /-- `(-1) ^ negative · significand · 2 ^ exponent`. -/
  | finite (negative : Bool) (significand : Nat) (exponent : Int)
  | infinite (negative : Bool)
  | nan
  deriving DecidableEq, Repr, Inhabited

/-- A non-negative rational `num / den` with `den > 0`, kept as a pair. -/
structure Ratio where
  num : Nat
  den : Nat
  deriving Repr

/-- `2 ^ e` for an integer `e`, as a ratio. -/
def Ratio.pow2 (e : Int) : Ratio :=
  if 0 ≤ e then ⟨Nat.pow 2 e.toNat, 1⟩ else ⟨1, Nat.pow 2 (-e).toNat⟩

/-- `10 ^ e` for an integer `e`, as a ratio. -/
def Ratio.pow10 (e : Int) : Ratio :=
  if 0 ≤ e then ⟨Nat.pow 10 e.toNat, 1⟩ else ⟨1, Nat.pow 10 (-e).toNat⟩

/-- The product of two ratios. -/
def Ratio.mul (a b : Ratio) : Ratio := ⟨a.num * b.num, a.den * b.den⟩

/-- The quotient of two ratios; the divisor must be positive. -/
def Ratio.div (a b : Ratio) : Ratio := ⟨a.num * b.den, a.den * b.num⟩

namespace BinaryFormat

/-- `⌊log₂ (n / d)⌋` for positive `n` and `d`. -/
def floorLog2 (n d : Nat) : Int :=
  let k : Int := (Nat.log2 n : Int) - (Nat.log2 d : Int)
  -- `k` is the answer or one above it
  let below : Bool := if 0 ≤ k then n < d * Nat.pow 2 k.toNat else n * Nat.pow 2 (-k).toNat < d
  if below then k - 1 else k

/-- The quotient and remainder of `num / (den · 2 ^ e)`, as the quotient, the remainder's
numerator and the common denominator. -/
def scaled (num den : Nat) (e : Int) : Nat × Nat × Nat :=
  if 0 ≤ e then
    let d := den * Nat.pow 2 e.toNat
    (num / d, num % d, d)
  else
    let n := num * Nat.pow 2 (-e).toNat
    (n / den, n % den, den)

/-- Rounds `num / den` (with `den > 0`) to the format, a tie going to the even significand. -/
def round (f : BinaryFormat) (negative : Bool) (num den : Nat) : BinaryValue :=
  if num = 0 then .finite negative 0 f.leastExp
  else
    let e := max (floorLog2 num den - (f.precision - 1 : Nat)) f.leastExp
    let (q, r, d) := scaled num den e
    let up := 2 * r > d || (2 * r = d && q % 2 = 1)
    let q' := if up then q + 1 else q
    let (m, e') := if q' = Nat.pow 2 f.precision then (Nat.pow 2 (f.precision - 1), e + 1) else (q', e)
    if e' > f.topExp then .infinite negative else .finite negative m e'

/-- Rounds a ratio with a sign. -/
def roundRatio (f : BinaryFormat) (negative : Bool) (r : Ratio) : BinaryValue :=
  f.round negative r.num r.den

end BinaryFormat

namespace BinaryValue

/-- The magnitude of a finite value as a ratio. -/
def magnitude? : BinaryValue → Option Ratio
  | .finite _ m e => some ((Ratio.pow2 e).mul ⟨m, 1⟩)
  | _ => none

/-- Whether the value is negative, negative zero included. -/
def isNegative : BinaryValue → Bool
  | .finite n _ _ => n
  | .infinite n => n
  | .nan => false

/-- Whether the value is infinite. -/
def isInfinite : BinaryValue → Bool
  | .infinite _ => true
  | _ => false

/-- The value with the opposite sign. -/
def negate : BinaryValue → BinaryValue
  | .finite n m e => .finite (!n) m e
  | .infinite n => .infinite (!n)
  | .nan => .nan

/-- The product of two values, rounded; infinities and NaN follow the usual rules. -/
def mul (f : BinaryFormat) (a b : BinaryValue) : BinaryValue :=
  match a, b with
  | .finite n₁ m₁ e₁, .finite n₂ m₂ e₂ =>
    f.roundRatio (n₁ != n₂) ((Ratio.pow2 (e₁ + e₂)).mul ⟨m₁ * m₂, 1⟩)
  | .nan, _ | _, .nan => .nan
  | .infinite n₁, .finite n₂ m _ | .finite n₂ m _, .infinite n₁ =>
    if m = 0 then .nan else .infinite (n₁ != n₂)
  | .infinite n₁, .infinite n₂ => .infinite (n₁ != n₂)

/-- The quotient of two values, rounded. -/
def div (f : BinaryFormat) (a b : BinaryValue) : BinaryValue :=
  match a, b with
  | .finite n₁ m₁ e₁, .finite n₂ m₂ e₂ =>
    if m₂ = 0 then (if m₁ = 0 then .nan else .infinite (n₁ != n₂))
    else f.roundRatio (n₁ != n₂) ((Ratio.pow2 (e₁ - e₂)).mul ⟨m₁, m₂⟩)
  | .nan, _ | _, .nan => .nan
  | .infinite _, .infinite _ => .nan
  | .infinite n₁, .finite n₂ _ _ => .infinite (n₁ != n₂)
  | .finite n₁ _ _, .infinite n₂ => .finite (n₁ != n₂) 0 f.leastExp

/-- The nearest value to a natural number. -/
def ofNat (f : BinaryFormat) (n : Nat) : BinaryValue := f.round false n 1

/-- The nearest value to `± digits · 10 ^ exp10`. Exponents far outside the format's range
give zero or infinity without computing powers: a value above `10 ^ 400` is beyond every
format here, and one below `10 ^ -400` rounds to zero. -/
def ofDecimal (f : BinaryFormat) (negative : Bool) (digits : Nat) (exp10 : Int) : BinaryValue :=
  if digits = 0 then .finite negative 0 f.leastExp
  else
    let size : Int := (toString digits).length
    if exp10 + size > 400 then .infinite negative
    else if exp10 + size < -400 then .finite negative 0 f.leastExp
    else f.roundRatio negative ((Ratio.pow10 exp10).mul ⟨digits, 1⟩)

end BinaryValue

/-! Shortest decimal text. -/

/-- The number of decimal digits of a positive number. -/
def decimalLength (n : Nat) : Nat := (toString n).length

/-- `⌊log₁₀ (n / d)⌋` for positive `n` and `d`. -/
def floorLog10 (n d : Nat) : Int :=
  let k : Int := (decimalLength n : Int) - (decimalLength d : Int)
  -- `k` is the answer or one above it
  let below : Bool := if 0 ≤ k then n < d * Nat.pow 10 k.toNat else n * Nat.pow 10 (-k).toNat < d
  if below then k - 1 else k

/-- The interval of reals that read back as a finite positive value `m · 2 ^ e`, as the
numerators of its ends over the common denominator `2 ^ (2 - e)` scaled: the ends are
`lo / den` and `hi / den`, and they belong to it when `m` is even. -/
structure ReadInterval where
  lo : Nat
  hi : Nat
  value : Nat
  den : Nat
  closed : Bool

/-- The read-back interval of `m · 2 ^ e` in a format. The lower neighbour is nearer when `m`
is the least normal significand above the least exponent. -/
def readInterval (f : BinaryFormat) (m : Nat) (e : Int) : ReadInterval :=
  -- everything is measured in units of 2 ^ (e - 2)
  let scale := Ratio.pow2 (e - 2)
  let v := 4 * m
  let lo := if m = Nat.pow 2 (f.precision - 1) && e > f.leastExp then v - 1 else v - 2
  let hi := v + 2
  { lo := lo * scale.num, hi := hi * scale.num, value := v * scale.num, den := scale.den,
    closed := m % 2 = 0 }

/-- Whether `x / den` lies in the interval. -/
def ReadInterval.holds (i : ReadInterval) (x : Nat) : Bool :=
  if i.closed then i.lo ≤ x && x ≤ i.hi else i.lo < x && x < i.hi

/-- How a value halfway between the two nearest shortest decimals is shown. -/
inductive Tie where
  /-- By the one whose last digit is even. -/
  | even
  /-- By the one above. -/
  | up
  deriving DecidableEq, Repr

/-- The shortest digits that read back, with the decimal exponent of the first digit's
place plus one: the value is `0.d₁d₂… · 10 ^ point`. Tries `1, 2, …` digits; at each length
the two grid points around the value are the only candidates, and of two that both read
back the nearer wins, a tie going by `tie`. -/
def shortestDigits (f : BinaryFormat) (tie : Tie) (m : Nat) (e : Int) : String × Int :=
  let iv := readInterval f m e
  -- the value is iv.value / iv.den; its leading digit has place 10 ^ lead
  let lead := floorLog10 iv.value iv.den
  let rec search (n : Nat) (fuel : Nat) : String × Int :=
    match fuel with
    | 0 => ("0", 0)
    | fuel + 1 =>
      -- grid step 10 ^ (lead - n + 1); candidates k · step with k = ⌊v / step⌋ and k + 1
      let p : Int := lead - (n : Int) + 1
      let step := Ratio.pow10 p
      -- v / step = iv.value · step.den / (iv.den · step.num)
      let num := iv.value * step.den
      let den := iv.den * step.num
      let k := num / den
      -- whether the candidate c · step lies in the interval, compared as fractions
      let ok (c : Nat) : Bool :=
        let x := c * step.num * iv.den
        if iv.closed then iv.lo * step.den ≤ x && x ≤ iv.hi * step.den
        else iv.lo * step.den < x && x < iv.hi * step.den
      let lowOk := k > 0 && ok k
      let highOk := ok (k + 1)
      let pick : Option Nat :=
        if lowOk && highOk then
          let dLow := num - k * den
          let dHigh := (k + 1) * den - num
          if dLow < dHigh then some k
          else if dHigh < dLow then some (k + 1)
          else match tie with
            | .even => if k % 2 = 0 then some k else some (k + 1)
            | .up => some (k + 1)
        else if lowOk then some k
        else if highOk then some (k + 1)
        else none
      match pick with
      | some c =>
        let s := toString c
        -- a carry may give one digit more than asked
        (s, p + (s.length : Int))
      | none => search (n + 1) fuel
  search 1 40

/-- The digits without their trailing zeros, and `0` for none. -/
def significantDigits (digits : String) : List Char :=
  let ds := (digits.toList.reverse.dropWhile (· == '0')).reverse
  if ds.isEmpty then ['0'] else ds

/-- Positional text of `0.digits · 10 ^ point`, trailing zeros of the digits removed. -/
def positional (digits : String) (point : Int) : String :=
  let ds := significantDigits digits
  let n : Int := ds.length
  if point ≤ 0 then "0." ++ String.ofList (List.replicate (-point).toNat '0') ++ String.ofList ds
  else if point < n then
    String.ofList (ds.take point.toNat) ++ "." ++ String.ofList (ds.drop point.toNat)
  else String.ofList ds ++ String.ofList (List.replicate (point - n).toNat '0')

/-- Compact text of `0.digits · 10 ^ point`: positional while the point falls within sixteen
places of the first digit, with `.0` after a whole number; otherwise one digit before the
point and a signed decimal exponent, as in `1e+16`, `2.5e-6` and `1.7976931348623157e+308`. -/
def compact (digits : String) (point : Int) : String :=
  let ds := significantDigits digits
  let n : Int := ds.length
  if n ≤ point && point ≤ 16 then
    String.ofList ds ++ String.ofList (List.replicate (point - n).toNat '0') ++ ".0"
  else if 0 < point && point ≤ 16 then
    String.ofList (ds.take point.toNat) ++ "." ++ String.ofList (ds.drop point.toNat)
  else if -5 < point && point ≤ 0 then
    "0." ++ String.ofList (List.replicate (-point).toNat '0') ++ String.ofList ds
  else
    let exp := point - 1
    let expText := if exp < 0 then "-" ++ toString exp.natAbs else "+" ++ toString exp.natAbs
    let mantissa := match ds with
      | [d] => String.singleton d
      | d :: rest => String.singleton d ++ "." ++ String.ofList rest
      | [] => "0"
    mantissa ++ "e" ++ expText

namespace BinaryValue

/-- The shortest positional text: `NaN`, `inf` and `-inf` for the special values, a minus
sign for every negative value, negative zero included; a value halfway between two shortest
decimals shows as the one above. -/
def text (f : BinaryFormat) : BinaryValue → String
  | .nan => "NaN"
  | .infinite n => if n then "-inf" else "inf"
  | .finite n m e =>
    let sign := if n then "-" else ""
    if m = 0 then sign ++ "0"
    else
      let (ds, point) := shortestDigits f .up m e
      sign ++ positional ds point

/-- The shortest compact text (see `compact`): `0.0` for zero, `NaN`, `inf` and `-inf` for
the special values, a minus sign for every negative value; a value halfway between two
shortest decimals shows as the one with the even last digit. -/
def compactText (f : BinaryFormat) : BinaryValue → String
  | .nan => "NaN"
  | .infinite n => if n then "-inf" else "inf"
  | .finite n m e =>
    let sign := if n then "-" else ""
    if m = 0 then sign ++ "0.0"
    else
      let (ds, point) := shortestDigits f .even m e
      sign ++ compact ds point

end BinaryValue

end AccountRegistry
