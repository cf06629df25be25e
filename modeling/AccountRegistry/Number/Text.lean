import AccountRegistry.Number.Binary

/-!
Reading numbers from text, the way configuration values are read.

An unsigned integer is an optional `+` and decimal digits, read left to right; the first
character that is not a digit, or the first digit that takes the value past the limit,
decides the error. A signed integer may have a `-` instead, and then is bounded below. A float is an optional sign and either decimal digits with an optional
point and exponent (at least one digit before or after the point), or `inf`, `infinity` or
`nan` in any case; its value is the nearest of the format.
-/

set_option autoImplicit false

namespace AccountRegistry

/-- Why a text is not an integer. -/
inductive IntegerTextError where
  | empty
  | invalidDigit
  | tooLarge
  | tooSmall
  deriving DecidableEq, Repr

/-- The text of the error. -/
def IntegerTextError.message : IntegerTextError → String
  | .empty => "cannot parse integer from empty string"
  | .invalidDigit => "invalid digit found in string"
  | .tooLarge => "number too large to fit in target type"
  | .tooSmall => "number too small to fit in target type"

/-- Reads digits left to right into a value at most `max`. -/
def readDigits (max : Nat) : List Char → Nat → Except IntegerTextError Nat
  | [], acc => .ok acc
  | c :: cs, acc =>
    if !c.isDigit then .error .invalidDigit
    else
      let v := acc * 10 + (c.toNat - '0'.toNat)
      if v > max then .error .tooLarge else readDigits max cs v

/-- Reads an unsigned integer at most `max`. A lone sign is not a number, and only `+` is
a sign. -/
def readUnsigned (max : Nat) (s : String) : Except IntegerTextError Nat :=
  match s.toList with
  | [] => .error .empty
  | ['+'] | ['-'] => .error .invalidDigit
  | '+' :: ds => readDigits max ds 0
  | ds => readDigits max ds 0

/-- Reads a signed integer from `-least` to `most`: an optional `+` or `-`, then decimal
digits, the first fault in reading order deciding the error. -/
def readSigned (least most : Nat) (s : String) : Except IntegerTextError Int :=
  match s.toList with
  | [] => .error .empty
  | ['+'] | ['-'] => .error .invalidDigit
  | '-' :: ds =>
    match readDigits least ds 0 with
    | .ok n => .ok (-(n : Int))
    | .error .tooLarge => .error .tooSmall
    | .error e => .error e
  | '+' :: ds => (readDigits most ds 0).map (fun n => (n : Int))
  | ds => (readDigits most ds 0).map (fun n => (n : Int))

/-- Why a text is not a float. -/
inductive FloatTextError where
  | empty
  | invalid
  deriving DecidableEq, Repr

/-- The text of the error. -/
def FloatTextError.message : FloatTextError → String
  | .empty => "cannot parse float from empty string"
  | .invalid => "invalid float literal"

/-- The value of a run of digits. -/
def digitsValue (ds : List Char) : Nat := ds.foldl (fun acc c => acc * 10 + (c.toNat - '0'.toNat)) 0

/-- Reads `digits [. digits] [e [sign] digits]` making up the whole text, as the digits'
value and the power of ten it is scaled by. -/
def decimalParts (cs : List Char) : Option (Nat × Int) :=
  let intDs := cs.takeWhile Char.isDigit
  let r := cs.drop intDs.length
  let (fracDs, r) := match r with
    | '.' :: r' => let f := r'.takeWhile Char.isDigit; (f, r'.drop f.length)
    | _ => ([], r)
  if intDs.isEmpty && fracDs.isEmpty then none
  else
    let base := digitsValue (intDs ++ fracDs)
    let scale : Int := -(fracDs.length : Int)
    match r with
    | [] => some (base, scale)
    | e :: r' =>
      if e == 'e' || e == 'E' then
        let (neg, r'') := match r' with
          | '-' :: t => (true, t)
          | '+' :: t => (false, t)
          | t => (false, t)
        let eds := r''.takeWhile Char.isDigit
        if eds.isEmpty || eds.length != r''.length then none
        else
          let x : Int := digitsValue eds
          some (base, scale + (if neg then -x else x))
      else none

/-- Checks that a text reads as a float, without computing its value: the error `readFloat`
gives, if any. -/
def checkFloat (s : String) : Except FloatTextError Unit :=
  match s.toList with
  | [] => .error .empty
  | cs =>
    let body := match cs with
      | '-' :: t | '+' :: t => t
      | t => t
    if body.isEmpty then .error .invalid
    else if (decimalParts body).isSome then .ok ()
    else
      let word := String.ofList (body.map Char.toLower)
      if word == "inf" || word == "infinity" || word == "nan" then .ok () else .error .invalid

/-- Reads a float of a format. -/
def readFloat (f : BinaryFormat) (s : String) : Except FloatTextError BinaryValue :=
  match s.toList with
  | [] => .error .empty
  | cs =>
    let (neg, body) := match cs with
      | '-' :: t => (true, t)
      | '+' :: t => (false, t)
      | t => (false, t)
    if body.isEmpty then .error .invalid
    else
      match decimalParts body with
      | some (d, e) => .ok (BinaryValue.ofDecimal f neg d e)
      | none =>
        let word := String.ofList (body.map Char.toLower)
        if word == "inf" || word == "infinity" then .ok (.infinite neg)
        else if word == "nan" then .ok .nan
        else .error .invalid

end AccountRegistry
