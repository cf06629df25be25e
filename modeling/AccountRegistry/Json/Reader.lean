import AccountRegistry.Json.Shape
import AccountRegistry.Number.Binary
import AccountRegistry.Text.Unicode

/-!
Reading JSON text against an expected shape, in one pass over its bytes.

The reader looks at each byte once and reports the first problem it meets, with the
line and the byte column where it stands: syntax problems and unexpected ends of input
where the byte is, problems with a value's type or content just after the value. A record
may be written as an object, its members in any order and unknown members skipped, or as
an array of its fields in order; a member given twice is refused at its name. A failure
inside a member's value also names the member (or the array position).

Numbers are read the usual way for such readers: an integer is kept exactly while it fits
in 64 bits; anything longer, or with a fraction or an exponent, becomes a double computed
as significand × or ÷ a power of ten, each step rounded, and a finite value that
overflows is an error.

With the compact writer of `Json.Value`, this reader makes the JSON format the program runs
with (`codec`).
-/

set_option autoImplicit false

namespace AccountRegistry.Json

/-- How a value of a shape is named when something else is found. -/
def ValueShape.expecting : ValueShape → String
  | .text | .converted _ => "a string"
  | .integer => "i64"
  | .choice _ => "variant identifier"

/-! Problems. -/

/-- The problems the reader can meet in the text itself. -/
inductive Code where
  | eofList | eofObject | eofString | eofValue
  | expectedColon | expectedListCommaOrEnd | expectedObjectCommaOrEnd | expectedIdent
  | expectedValue | invalidEscape | invalidNumber | numberOutOfRange | controlCharacter
  | keyMustBeString | loneSurrogate | trailingComma | trailingCharacters | unexpectedEndOfEscape
  deriving DecidableEq, Repr

/-- The text of a problem. -/
def Code.message : Code → String
  | .eofList => "EOF while parsing a list"
  | .eofObject => "EOF while parsing an object"
  | .eofString => "EOF while parsing a string"
  | .eofValue => "EOF while parsing a value"
  | .expectedColon => "expected `:`"
  | .expectedListCommaOrEnd => "expected `,` or `]`"
  | .expectedObjectCommaOrEnd => "expected `,` or `\x7d`"
  | .expectedIdent => "expected ident"
  | .expectedValue => "expected value"
  | .invalidEscape => "invalid escape"
  | .invalidNumber => "invalid number"
  | .numberOutOfRange => "number out of range"
  | .controlCharacter => "control character (\\u0000-\\u001F) found while parsing a string"
  | .keyMustBeString => "key must be a string"
  | .loneSurrogate => "lone leading surrogate in hex escape"
  | .trailingComma => "trailing comma"
  | .trailingCharacters => "trailing characters"
  | .unexpectedEndOfEscape => "unexpected end of hex escape"

/-- Whether the problem is an early end of input. -/
def Code.category : Code → ReadCategory
  | .eofList | .eofObject | .eofString | .eofValue => .eof
  | _ => .malformed

/-- Line and byte column of a byte offset: lines count from 1, columns count the bytes
since the last line feed. -/
def positionAt (src : ByteArray) (i : Nat) : Nat × Nat :=
  (src.toList.take i).foldl
    (fun (lc : Nat × Nat) (b : UInt8) => if b == 10 then (lc.1 + 1, 0) else (lc.1, lc.2 + 1)) (1, 0)

/-- A number as read: a 64-bit unsigned or negative integer, or a double. -/
inductive ReadNumber where
  | unsigned (n : Nat)
  | signed (n : Int)
  | float (v : BinaryValue)

/-- How an unexpected number is named. -/
def ReadNumber.unexpected : ReadNumber → String
  | .unsigned n => "integer `" ++ toString n ++ "`"
  | .signed n => "integer `" ++ toString n ++ "`"
  | .float v => "floating point `" ++ v.compactText BinaryFormat.double ++ "`"

/-- The reading state: the text's bytes are fixed, the offset moves. -/
abbrev ReadM := ReaderT ByteArray (ExceptT ReadError (StateM Nat))

/-- The byte at an offset, or zero past the end. -/
def byteAt (src : ByteArray) (i : Nat) : UInt8 := if h : i < src.size then src[i] else 0

/-- The byte at the offset. -/
def peek : ReadM (Option UInt8) := do
  let src ← read
  let i ← get
  pure (if h : i < src.size then some src[i] else none)

/-- Steps over one byte. -/
def eat : ReadM Unit := modify (· + 1)

/-- The byte at the offset, stepping over it. -/
def next : ReadM (Option UInt8) := do
  let b ← peek
  if b.isSome then eat
  pure b

/-- Fails with a problem at the offset. -/
def failAt {α : Type} (c : Code) : ReadM α := do
  let src ← read
  let i ← get
  throw { message := c.message, category := c.category, position := some (positionAt src i) }

/-- Fails with a problem at the byte after the offset, as seen when looking ahead. -/
def failAhead {α : Type} (c : Code) : ReadM α := do
  let src ← read
  let i ← get
  throw { message := c.message, category := c.category, position := some (positionAt src (min src.size (i + 1))) }

/-- A problem with the value read, without a position yet. -/
def dataError (message : String) : ReadError := { message := message, category := .data }

/-- Gives a problem without a position the position of the offset. -/
def placed (e : ReadError) : ReadM ReadError := do
  match e.position with
  | some _ => pure e
  | none =>
    let src ← read
    let i ← get
    pure { e with position := some (positionAt src i) }

/-- Runs a step; a problem without a position gets the offset where the step stopped. -/
def placing {α : Type} (x : ReadM α) : ReadM α :=
  tryCatch x fun e => do throw (← placed e)

/-- Whether a byte is a blank between tokens. -/
def isBlank (b : UInt8) : Bool := b == 32 || b == 10 || b == 9 || b == 13

/-- The offset after the blanks from `i`. -/
def blankEnd (src : ByteArray) (i : Nat) : Nat :=
  if h : i < src.size then
    if isBlank src[i] then blankEnd src (i + 1) else i
  else i
termination_by src.size - i

/-- Steps over blanks and looks at the next byte. -/
def skipBlank : ReadM (Option UInt8) := do
  let src ← read
  modify (blankEnd src)
  peek

/-- Whether a byte is an ASCII digit. -/
def isDigit (b : UInt8) : Bool := 48 ≤ b && b ≤ 57

/-- The value of an ASCII digit. -/
def digitOf (b : UInt8) : Nat := b.toNat - 48

/-- Steps over the digits at the offset. -/
def skipDigits : Nat → ReadM Unit
  | 0 => pure ()
  | fuel + 1 => do
    match ← peek with
    | some b => if isDigit b then do eat; skipDigits fuel else pure ()
    | none => pure ()

/-- The bound on the steps of any loop over the text: one more than its length. -/
def budget : ReadM Nat := do
  let src ← read
  pure (src.size + 1)

/-! Strings. -/

/-- The value of a hex digit. -/
def hexValue (b : UInt8) : Option Nat :=
  if 48 ≤ b && b ≤ 57 then some (b.toNat - 48)
  else if 97 ≤ b && b ≤ 102 then some (b.toNat - 87)
  else if 65 ≤ b && b ≤ 70 then some (b.toNat - 55)
  else none

/-- Reads the four hex digits of a `\u` escape. -/
def hexEscape : ReadM Nat := do
  let src ← read
  let i ← get
  if i + 4 ≤ src.size then
    set (i + 4)
    let ds := [byteAt src i, byteAt src (i + 1), byteAt src (i + 2), byteAt src (i + 3)].map hexValue
    match ds with
    | [some a, some b, some c, some d] => pure (((a * 16 + b) * 16 + c) * 16 + d)
    | _ => failAt .invalidEscape
  else
    set src.size
    failAt .eofString

/-- The UTF-8 bytes of a code point. -/
def utf8Bytes (n : Nat) : List UInt8 :=
  if n < 0x80 then [n.toUInt8]
  else if n < 0x800 then [(0xC0 + n / 64).toUInt8, (0x80 + n % 64).toUInt8]
  else if n < 0x10000 then
    [(0xE0 + n / 4096).toUInt8, (0x80 + (n / 64) % 64).toUInt8, (0x80 + n % 64).toUInt8]
  else
    [(0xF0 + n / 262144).toUInt8, (0x80 + (n / 4096) % 64).toUInt8,
     (0x80 + (n / 64) % 64).toUInt8, (0x80 + n % 64).toUInt8]

/-- Reads a `\u` escape after the `u`: a surrogate must be a leading one followed by an
escaped trailing one. -/
def unicodeEscape : ReadM (List UInt8) := do
  let n ← hexEscape
  if 0xDC00 ≤ n && n ≤ 0xDFFF then failAt .loneSurrogate
  else if n < 0xD800 || n > 0xDBFF then pure (utf8Bytes n)
  else
    let expectByte (want : UInt8) : ReadM Unit := do
      match ← peek with
      | none => failAt .eofString
      | some b => do
        eat
        if b == want then pure () else failAt .unexpectedEndOfEscape
    expectByte 92
    expectByte 117
    let n2 ← hexEscape
    if n2 < 0xDC00 || n2 > 0xDFFF then failAt .loneSurrogate
    else pure (utf8Bytes (((n - 0xD800) * 1024 + (n2 - 0xDC00)) + 0x10000))

/-- Reads the escape after a backslash. -/
def escape : ReadM (List UInt8) := do
  match ← next with
  | none => failAt .eofString
  | some b =>
    if b == 34 then pure [34]
    else if b == 92 then pure [92]
    else if b == 47 then pure [47]
    else if b == 98 then pure [8]
    else if b == 102 then pure [12]
    else if b == 110 then pure [10]
    else if b == 114 then pure [13]
    else if b == 116 then pure [9]
    else if b == 117 then unicodeEscape
    else failAt .invalidEscape

/-- Reads the rest of a string after its opening quote. -/
def stringBody : Nat → ByteArray → ReadM String
  | 0, _ => failAt .eofString
  | fuel + 1, acc => do
    match ← peek with
    | none => failAt .eofString
    | some b =>
      if b == 34 then do
        eat
        pure ((String.fromUTF8? acc).getD "")
      else if b == 92 then do
        eat
        let bs ← escape
        stringBody fuel (bs.foldl ByteArray.push acc)
      else if b < 32 then do
        eat
        failAt .controlCharacter
      else do
        eat
        stringBody fuel (acc.push b)

/-- Reads a string after its opening quote. -/
def string : ReadM String := do
  stringBody (← budget) ByteArray.empty

/-- Steps over the escape after a backslash in a skipped string. -/
def skipEscape : ReadM Unit := do
  match ← next with
  | none => failAt .eofString
  | some b =>
    if [34, 92, 47, 98, 102, 110, 114, 116].contains b then pure ()
    else if b == 117 then do let _ ← hexEscape; pure ()
    else failAt .invalidEscape

/-- Steps over the rest of a string after its opening quote. -/
def skipStringBody : Nat → ReadM Unit
  | 0 => failAt .eofString
  | fuel + 1 => do
    match ← peek with
    | none => failAt .eofString
    | some b =>
      if b == 34 then eat
      else if b == 92 then do
        eat
        skipEscape
        skipStringBody fuel
      else if b < 32 then failAt .controlCharacter
      else do
        eat
        skipStringBody fuel

/-! Numbers. -/

/-- The largest value of an unsigned 64-bit word. -/
def wordMax : Nat := Nat.pow 2 64 - 1

/-- The largest value of a signed 32-bit word. -/
def exponentMax : Int := Int.pow 2 31 - 1

/-- Whether `a · 10 + d` exceeds `limit`. -/
def overflows (a d limit : Nat) : Bool := a ≥ limit / 10 && (a > limit / 10 || d > limit % 10)

/-- A 32-bit exponent sum, saturating at the ends of the range. -/
def saturate (e : Int) : Int := max (-(Int.pow 2 31)) (min exponentMax e)

/-- `± significand · 10 ^ exponent` as doubles compute it: the significand rounded, then
multiplied or divided by the rounded power of ten, with powers beyond 10 ^ 308 applied by
repeated division by 10 ^ 308. A finite value that becomes infinite is out of range. -/
def fromParts (positive : Bool) (significand : Nat) (exponent : Int) : ReadM BinaryValue := do
  let f := BinaryFormat.double
  let rec go : Nat → BinaryValue → Int → ReadM BinaryValue
    | 0, v, _ => pure v
    | fuel + 1, v, e =>
      if e.natAbs ≤ 308 then
        let p := BinaryValue.ofDecimal f false 1 e.natAbs
        if 0 ≤ e then
          let w := v.mul f p
          if w.isInfinite then failAt .numberOutOfRange else pure w
        else pure (v.div f p)
      else if v == .finite false 0 f.leastExp then pure v
      else if 0 ≤ e then failAt .numberOutOfRange
      else go fuel (v.div f (BinaryValue.ofDecimal f false 1 308)) (e + 308)
  let v ← go 16 (BinaryValue.ofNat f significand) exponent
  pure (if positive then v else v.negate)

/-- Reads an exponent after its letter. -/
def exponentPart (positive : Bool) (significand : Nat) (start : Int) : ReadM BinaryValue := do
  eat
  let positiveExp ← do
    match ← peek with
    | some 43 => do eat; pure true
    | some 45 => do eat; pure false
    | _ => pure true
  match ← next with
  | none => failAt .eofValue
  | some b =>
    if !isDigit b then failAt .invalidNumber
    else
      let rec digits : Nat → Int → ReadM (Option Int)
        | 0, e => pure (some e)
        | fuel + 1, e => do
          match ← peek with
          | some c =>
            if isDigit c then do
              eat
              if overflows e.toNat (digitOf c) exponentMax.toNat then pure none
              else digits fuel (e * 10 + digitOf c)
            else pure (some e)
          | none => pure (some e)
      match ← digits (← budget) (digitOf b) with
      | none =>
        if significand != 0 && positiveExp then failAt .numberOutOfRange
        else do
          skipDigits (← budget)
          pure (.finite (!positive) 0 BinaryFormat.double.leastExp)
      | some e =>
        let final := saturate (if positiveExp then start + e else start - e)
        fromParts positive significand final

/-- Reads a fraction after its point. -/
def fractionPart (positive : Bool) (significand : Nat) (before : Int) : ReadM BinaryValue := do
  eat
  let rec digits : Nat → Nat → Int → ReadM (Nat × Int × Bool)
    | 0, s, e => pure (s, e, false)
    | fuel + 1, s, e => do
      match ← peek with
      | some c =>
        if isDigit c then
          if overflows s (digitOf c) wordMax then pure (s, e, true)
          else do
            eat
            digits fuel (s * 10 + digitOf c) (e - 1)
        else pure (s, e, false)
      | none => pure (s, e, false)
  let (s, after, full) ← digits (← budget) significand 0
  if full then do
    -- further digits cannot change the value
    skipDigits (← budget)
    match ← peek with
    | some 101 | some 69 => exponentPart positive s (before + after)
    | _ => fromParts positive s (before + after)
  else if after == 0 then
    match ← peek with
    | some _ => failAhead .invalidNumber
    | none => failAhead .eofValue
  else
    match ← peek with
    | some 101 | some 69 => exponentPart positive s (before + after)
    | _ => fromParts positive s (before + after)

/-- Reads the rest of an integer too long for 64 bits; its further digits only scale it. -/
def longInteger (positive : Bool) (significand : Nat) : ReadM BinaryValue := do
  let rec go : Nat → Int → ReadM BinaryValue
    | 0, e => fromParts positive significand e
    | fuel + 1, e => do
      match ← peek with
      | some c =>
        if isDigit c then do eat; go fuel (e + 1)
        else if c == 46 then fractionPart positive significand e
        else if c == 101 || c == 69 then exponentPart positive significand e
        else fromParts positive significand e
      | none => fromParts positive significand e
  go (← budget) 0

/-- Finishes a number after its integer digits. -/
def numberTail (positive : Bool) (significand : Nat) : ReadM ReadNumber := do
  match ← peek with
  | some 46 => pure (.float (← fractionPart positive significand 0))
  | some 101 | some 69 => pure (.float (← exponentPart positive significand 0))
  | _ =>
    if positive then pure (.unsigned significand)
    else if significand == 0 || significand > Nat.pow 2 63 then
      pure (.float (BinaryValue.ofNat BinaryFormat.double significand).negate)
    else pure (.signed (-(significand : Int)))

/-- Reads a number after its sign. -/
def integer (positive : Bool) : ReadM ReadNumber := do
  match ← next with
  | none => failAt .eofValue
  | some b =>
    if b == 48 then
      match ← peek with
      | some c => if isDigit c then failAhead .invalidNumber else numberTail positive 0
      | none => numberTail positive 0
    else if isDigit b then
      let rec go : Nat → Nat → ReadM ReadNumber
        | 0, s => numberTail positive s
        | fuel + 1, s => do
          match ← peek with
          | some c =>
            if isDigit c then
              if overflows s (digitOf c) wordMax then pure (.float (← longInteger positive s))
              else do
                eat
                go fuel (s * 10 + digitOf c)
            else numberTail positive s
          | none => numberTail positive s
      go (← budget) (digitOf b)
    else failAt .invalidNumber

/-- Steps over the rest of an exponent after its letter. -/
def skipExponent : ReadM Unit := do
  eat
  match ← peek with
  | some 43 | some 45 => eat
  | _ => pure ()
  match ← next with
  | some b => if isDigit b then skipDigits (← budget) else failAt .invalidNumber
  | none => failAt .invalidNumber

/-- Steps over a number after its sign. -/
def skipNumber : ReadM Unit := do
  match ← next with
  | some 48 =>
    match ← peek with
    | some c => if isDigit c then failAhead .invalidNumber else pure ()
    | none => pure ()
  | some b => if isDigit b then skipDigits (← budget) else failAt .invalidNumber
  | none => failAt .invalidNumber
  match ← peek with
  | some 46 => do
    eat
    match ← peek with
    | some c =>
      if isDigit c then do
        skipDigits (← budget)
        match ← peek with
        | some 101 | some 69 => skipExponent
        | _ => pure ()
      else failAhead .invalidNumber
    | none => failAhead .invalidNumber
  | some 101 | some 69 => skipExponent
  | _ => pure ()

/-! Values. -/

/-- Reads the rest of a literal word. -/
def word (rest : List UInt8) : ReadM Unit :=
  rest.forM fun want => do
    match ← next with
    | none => failAt .eofValue
    | some b => if b == want then pure () else failAt .expectedIdent

/-- The problem for a value of the wrong type, after reading that value. -/
def wrongType (expecting : String) : ReadM ReadError := do
  let found : Option String ← do
    match (← peek).getD 0 with
    | 110 => do eat; word [117, 108, 108]; pure (some "null")
    | 116 => do eat; word [114, 117, 101]; pure (some "boolean `true`")
    | 102 => do eat; word [97, 108, 115, 101]; pure (some "boolean `false`")
    | 45 => do eat; pure (some (← integer false).unexpected)
    | 34 => do eat; pure (some ("string " ++ Text.debugQuote (← string)))
    | 91 => pure (some "sequence")
    | 123 => pure (some "map")
    | b => if isDigit b then pure (some (← integer true).unexpected) else pure none
  match found with
  | some f => placed (dataError ("invalid type: " ++ f ++ ", expected " ++ expecting))
  | none => do
    let src ← read
    let i ← get
    pure { message := Code.expectedValue.message, category := .malformed,
           position := some (positionAt src (min src.size (i + 1))) }

/-- Steps over a member's name and its colon inside a skipped object. -/
def skipMemberName : ReadM Unit := do
  match ← skipBlank with
  | some 34 => eat
  | some _ => failAhead .keyMustBeString
  | none => failAhead .eofObject
  skipStringBody (← budget)
  match ← skipBlank with
  | some 58 => eat
  | some _ => failAhead .expectedColon
  | none => failAhead .eofObject

/-- Steps over a scalar value whose first byte is `b`. -/
def skipScalar (b : UInt8) : ReadM Unit := do
  if b == 110 then do eat; word [117, 108, 108]
  else if b == 116 then do eat; word [114, 117, 101]
  else if b == 102 then do eat; word [97, 108, 115, 101]
  else if b == 45 then do eat; skipNumber
  else if isDigit b then skipNumber
  else if b == 34 then do eat; skipStringBody (← budget)
  else failAhead .expectedValue

/-- After a value inside the container `frame` (with `outer` around it): closes finished
containers and stops before the next value, giving the container it belongs to, or nothing
when the outermost one closed. A comma is accepted only after a value. -/
def skipClosings : Nat → UInt8 → Bool → List UInt8 → ReadM (Option (UInt8 × List UInt8))
  | 0, frame, _, outer => pure (some (frame, outer))
  | fuel + 1, frame, acceptComma, outer => do
    match ← skipBlank with
    | some b =>
      if b == 44 && acceptComma then do eat; pure (some (frame, outer))
      else if (b == 93 && frame == 91) || (b == 125 && frame == 123) then do
        eat
        match outer with
        | [] => pure none
        | f :: rest => skipClosings fuel f true rest
      else if acceptComma then
        failAhead (if frame == 91 then .expectedListCommaOrEnd else .expectedObjectCommaOrEnd)
      else pure (some (frame, outer))
    | none => failAhead (if frame == 91 then .eofList else .eofObject)

/-- Skips one value of any shape, nested arrays and objects included. The open brackets are
kept on a stack, so nesting depth is not limited. -/
def skipValue : ReadM Unit := do
  let rec values : Nat → List UInt8 → ReadM Unit
    | 0, _ => pure ()
    | fuel + 1, stack => do
      match ← skipBlank with
      | none => failAhead .eofValue
      | some b =>
        let start : Option (UInt8 × Bool × List UInt8) ←
          if b == 91 || b == 123 then do eat; pure (some (b, false, stack))
          else do
            skipScalar b
            match stack with
            | [] => pure none
            | f :: rest => pure (some (f, true, rest))
        match start with
        | none => pure ()
        | some (frame, accept, outer) =>
          match ← skipClosings (← budget) frame accept outer with
          | none => pure ()
          | some (frame', outer') =>
            if frame' == 123 then skipMemberName
            values fuel (frame' :: outer')
  values (← budget) []

/-- Reads a string value. -/
def textValue (expecting : String) : ReadM String := do
  match ← skipBlank with
  | none => failAhead .eofValue
  | some 34 => do eat; placing string
  | some _ => throw (← wrongType expecting)

/-- Reads an integer of a signed 64-bit word. -/
def integerValue : ReadM Int := do
  match ← skipBlank with
  | none => failAhead .eofValue
  | some b =>
    let n ← if b == 45 then do eat; integer false
      else if isDigit b then integer true
      else throw (← wrongType "i64")
    match n with
    | .unsigned k =>
      if k < Nat.pow 2 63 then pure k
      else throw (← placed (dataError ("invalid value: integer `" ++ toString k ++ "`, expected i64")))
    | .signed k => pure k
    | .float _ => throw (← placed (dataError ("invalid type: " ++ n.unexpected ++ ", expected i64")))

/-- The text offering the names of a choice. -/
def offering (names : List String) : String :=
  match names with
  | [a] => "`" ++ a ++ "`"
  | [a, b] => "`" ++ a ++ "` or `" ++ b ++ "`"
  | _ => "one of " ++ ", ".intercalate (names.map fun n => "`" ++ n ++ "`")

/-- Reads a name of a choice. -/
def choiceName (names : List String) : ReadM String := do
  let s ← textValue "variant identifier"
  if names.contains s then pure s
  else throw (← placed (dataError ("unknown variant `" ++ s ++ "`, expected " ++ offering names)))

/-- Reads one of the names of a choice. -/
def choiceValue (names : List String) : ReadM String := do
  match ← skipBlank with
  | some 123 => do
    eat
    let s ← choiceName names
    match ← skipBlank with
    | some 58 => eat
    | some _ => failAhead .expectedColon
    | none => failAhead .eofObject
    -- the value of a name without data is null
    match ← skipBlank with
    | none => failAhead .eofValue
    | some 110 => do eat; word [117, 108, 108]
    | some _ => throw (← wrongType "unit")
    match ← skipBlank with
    | some 125 => do eat; pure s
    | some _ => failAt .expectedValue
    | none => failAt .eofObject
  | some 34 => choiceName names
  | some _ => failAhead .expectedValue
  | none => failAhead .eofValue

/-- Reads a single value of a shape. A string its conversion refuses is a problem without a
position. -/
def shapedValue : ValueShape → ReadM Json
  | .text => do pure (.str (← textValue "a string"))
  | .integer => do pure (.int (← integerValue))
  | .converted conv => do
    let s ← textValue "a string"
    match conv s with
    | .ok t => pure (.str t)
    | .error m => throw (dataError m)
  | .choice names => do pure (.str (← choiceValue names))

/-- Runs a step that reads a member's value; a problem inside it names the member. -/
def inMember {α : Type} (name : String) (x : ReadM α) : ReadM α :=
  tryCatch x fun e => throw (if e.path.isSome then e else { e with path := some name })

/-- The fields of a record once read: the value of each field, absent ones filled from
their defaults, or the problem with the first field that is missing. -/
def completeFields (r : RecordShape) (found : List (String × Json)) : Except ReadError Json := do
  let values ← r.fields.mapM fun f =>
    match found.find? (·.1 == f.name), f.default with
    | some (_, v), _ => pure (f.name, v)
    | none, some d => pure (f.name, d)
    | none, none => throw (dataError ("missing field `" ++ f.name ++ "`"))
  pure (.obj values)

/-- Reads the members of a record written as an object, after the brace. Stops before the
closing brace. -/
def recordMembers (r : RecordShape) : Nat → Bool → List (String × Json) → ReadM Json
  | 0, _, _ => failAt .eofObject
  | fuel + 1, first, found => do
    match ← skipBlank with
    | some 125 =>
      match completeFields r found with
      | .ok j => pure j
      | .error e => throw e
    | none => failAhead .eofObject
    | some c =>
      let at? : Option UInt8 ←
        if c == 44 && !first then do eat; skipBlank
        else if first then pure (some c)
        else failAhead .expectedObjectCommaOrEnd
      -- a member's name
      let key ← match at? with
        | some 34 => do eat; string
        | some 125 => failAhead .trailingComma
        | some _ => failAhead .keyMustBeString
        | none => failAhead .eofValue
      match r.fields.find? (·.name == key) with
      | some f =>
        if found.any (·.1 == key) then throw (dataError ("duplicate field `" ++ key ++ "`"))
        else
          let v ← inMember key do
            match ← skipBlank with
            | some 58 => eat
            | some _ => failAhead .expectedColon
            | none => failAhead .eofObject
            shapedValue f.shape
          recordMembers r fuel false (found ++ [(key, v)])
      | none =>
        inMember key do
          match ← skipBlank with
          | some 58 => eat
          | some _ => failAhead .expectedColon
          | none => failAhead .eofObject
          skipValue
        recordMembers r fuel false found

/-- Reads the fields of a record written as an array, after the bracket. Stops before the
closing bracket. -/
def recordItems (r : RecordShape) : List FieldSpec → Nat → Bool → Bool → List (String × Json) → ReadM Json
  | [], _, _, _, found => pure (.obj found)
  | f :: rest, index, first, ended, found => do
    let item : Option Json ← if ended then pure none else inMember ("[" ++ toString index ++ "]") do
      match ← skipBlank with
      | some 93 => pure none
      | none => failAhead .eofList
      | some c =>
        let at? : Option UInt8 ←
          if c == 44 && !first then do eat; skipBlank
          else if first then pure (some c)
          else failAhead .expectedListCommaOrEnd
        match at? with
        | some 93 => failAhead .trailingComma
        | some _ => pure (some (← shapedValue f.shape))
        | none => failAhead .eofValue
    match item, f.default with
    | some v, _ => recordItems r rest (index + 1) false false (found ++ [(f.name, v)])
    | none, some d => recordItems r rest (index + 1) first true (found ++ [(f.name, d)])
    | none, none =>
      throw (dataError ("invalid length " ++ toString index ++ ", expected struct " ++ r.name ++
        " with " ++ toString r.fields.length ++ " elements"))

/-- The closing brace of an object read as a record. -/
def closeObject : ReadM Unit := do
  match ← skipBlank with
  | some 125 => eat
  | some 44 => failAhead .trailingComma
  | some _ => failAhead .trailingCharacters
  | none => failAhead .eofObject

/-- The closing bracket of an array read as a record. -/
def closeArray : ReadM Unit := do
  match ← skipBlank with
  | some 93 => eat
  | some 44 => do
    eat
    match ← skipBlank with
    | some 93 => failAhead .trailingComma
    | _ => failAhead .trailingCharacters
  | some _ => failAhead .trailingCharacters
  | none => failAhead .eofList

/-- Reads a record. The closing bracket is looked for even when the fields fail, and a
problem of the fields wins over one of the bracket; a problem without a position gets the
offset reached after the bracket. -/
def recordValue (r : RecordShape) : ReadM Json := do
  let body : ReadM Json → ReadM Unit → ReadM Json := fun fields close => do
    eat
    let result ← tryCatch (do pure (Except.ok (← fields))) fun e => pure (Except.error e)
    let closing ← tryCatch (do close; pure none) fun e => pure (some e)
    match result, closing with
    | .ok v, none => pure v
    | .error e, _ => throw (← placed e)
    | .ok _, some e => throw (← placed e)
  match ← skipBlank with
  | some 123 => body (do recordMembers r (← budget) true []) closeObject
  | some 91 => body (recordItems r r.fields 0 true false []) closeArray
  | some _ => throw (← wrongType ("struct " ++ r.name))
  | none => failAhead .eofValue

/-- Reads a whole document of a shape: the value, then nothing but blanks. -/
def readDocument (text : String) (shape : Shape) : Except ReadError Json :=
  let src := text.toUTF8
  let run : ReadM Json := do
    let v ← match shape with
      | .value s => shapedValue s
      | .record r => recordValue r
    match ← skipBlank with
    | some _ => failAhead .trailingCharacters
    | none => pure v
  (((run.run src).run).run 0).1

/-- The JSON format the program runs with: the compact writer and this reader. -/
def codec : Codec := ⟨write, readDocument⟩

end AccountRegistry.Json
