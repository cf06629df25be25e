import AccountRegistry.Remote.Tokens
import AccountRegistry.Json.Value
import AccountRegistry.Number.Text
import AccountRegistry.Text.Unicode
import AccountRegistry.Text.DateTime
/-!
# Reading a reply body against its shape

A successful reply, or the body of a known error, is read byte by byte against the shape of
what it holds. Whitespace (space, tab, line feed, carriage return) may stand between tokens.

- A body of whitespace only counts as `{}`; any other body must be an object, and only
  whitespace may follow it.
- In an object or array, a `,` must stand between two elements: one before the first
  element, two in a row, one before the closing bracket, a missing one, and the end of the
  text each have their own error.
- A member's name is decoded and looked up; an unknown member's value is skipped, checked
  only for its syntax: strings with valid escapes (raw control characters pass), numbers of
  the strict JSON grammar, the literals, and nested arrays and objects. A known member set to
  `null` is skipped, and one given twice keeps the later value.
- A string of a shape keeps its raw characters and has its escapes decoded; an integer is the
  run of number characters at the value, read as a 64-bit signed decimal and then held to 32
  bits; a boolean is `true` or `false`; a timestamp is a number, or a string holding an RFC
  3339 date-time.
- A value of the wrong kind is a type mismatch naming the kind expected.
-/

set_option autoImplicit false

namespace AccountRegistry.Remote

/-- Why a reply body could not be read. -/
inductive ReplyFailure where
  | invalidInput (message : String)
  | typeMismatch (message : String)
  /-- A failure the reader words itself. -/
  | custom (message : String)
  deriving DecidableEq, Repr

namespace ReplyFailure

/-- The text of a reading failure. -/
def text : ReplyFailure → String
  | .invalidInput m => "invalid input: " ++ m
  | .typeMismatch m => "type mismatch: " ++ m
  | .custom m => m

/-- The diagnostic form of a reading failure. -/
def debugText : ReplyFailure → String
  | .invalidInput m => "InvalidInput \x7b message: " ++ Text.debugQuote m ++ " \x7d"
  | .typeMismatch m => "TypeMismatch \x7b message: " ++ Text.debugQuote m ++ " \x7d"
  | .custom m => "Custom \x7b message: " ++ Text.debugQuote m ++ " \x7d"

end ReplyFailure

/-- The shape of a value in a reply. -/
inductive Shape where
  | text
  | integer
  | boolean
  | timestamp
  | record (members : List (String × Shape))
  | list (item : Shape)
  | map (value : Shape)

namespace Body

/-- An invalid-input failure. -/
def invalid (m : String) : ReplyFailure := .invalidInput m

/-- Whether a byte is JSON whitespace. -/
def isBlank (b : UInt8) : Bool := b == 32 || b == 9 || b == 10 || b == 13

/-- Drops leading whitespace. -/
def skipBlank (bs : List UInt8) : List UInt8 := bs.dropWhile isBlank

/-- Whether a byte is an ASCII digit. -/
def isDigit (b : UInt8) : Bool := 48 ≤ b && b ≤ 57

/-- Whether a byte is an ASCII hex digit. -/
def isHexDigit (b : UInt8) : Bool := isDigit b || (97 ≤ b && b ≤ 102) || (65 ≤ b && b ≤ 70)

/-- Whether a byte may be part of a number's text. -/
def isNumberByte (b : UInt8) : Bool := isDigit b || b == 43 || b == 45 || b == 46 || b == 101 || b == 69

/-- Whether bytes start with the bytes of a word. -/
def startsWithWord (bs : List UInt8) (word : String) : Bool :=
  let w := word.toUTF8.toList
  bs.take w.length == w

/-- ASCII bytes as text. -/
def asciiText (bs : List UInt8) : String := Text.lossyString bs

/-! ## Brackets and commas -/

/-- What follows the opening bracket of an array or object (`what`): `true` and the rest after
the closing bracket when it is empty, else `false` and the rest at its first element. -/
def openContainer (close : UInt8) (what : String) (bs : List UInt8) : Except ReplyFailure (Bool × List UInt8) :=
  match skipBlank bs with
  | [] => .error (invalid ("unexpected end of input in " ++ what))
  | b :: rest =>
    if b == close then .ok (true, rest)
    else if b == 44 then .error (invalid ("unexpected `,` before the first element of " ++ what))
    else .ok (false, b :: rest)

/-- What follows an element of an array or object: `true` and the rest after the closing
bracket, or `false` and the rest at the next element, after its comma. -/
def nextElement (close : UInt8) (what : String) (bs : List UInt8) : Except ReplyFailure (Bool × List UInt8) :=
  match skipBlank bs with
  | [] => .error (invalid ("unexpected end of input in " ++ what))
  | b :: rest =>
    if b == close then .ok (true, rest)
    else if b == 44 then
      match skipBlank rest with
      | [] => .error (invalid ("unexpected end of input in " ++ what))
      | c :: rest' =>
        if c == 44 then .error (invalid ("repeated `,` in " ++ what))
        else if c == close then .error (invalid ("trailing `,` in " ++ what))
        else .ok (false, c :: rest')
    else .error (invalid ("expected `,` between elements of " ++ what))

/-! ## Strings -/

/-- The raw body of a string whose opening quote has been read, and the rest after its closing
quote: a backslash takes the byte after it along. `none` when the text ends first. -/
def stringBody : List UInt8 → Option (List UInt8 × List UInt8)
  | [] => none
  | 34 :: rest => some ([], rest)
  | 92 :: c :: rest => (stringBody rest).map fun (body, r) => (92 :: c :: body, r)
  | [92] => none
  | b :: rest => (stringBody rest).map fun (body, r) => (b :: body, r)

/-- Decodes the escapes of a string's raw text. -/
def decoded (raw : String) : Except ReplyFailure String :=
  match unescape raw with
  | .ok v => .ok v
  | .error f => .error (invalid f.text)

/-- Reads a string at the front: its decoded text and the rest. -/
def readString (bs : List UInt8) : Except ReplyFailure (Option (String × List UInt8)) :=
  match bs with
  | 34 :: rest =>
    match stringBody rest with
    | none => .error (invalid "unterminated string")
    | some (body, r) => do pure (some (← decoded (asciiText body), r))
  | _ => .ok none

/-- Skips the rest of a string whose opening quote has been read, checking its escapes. -/
def skipStringBody : List UInt8 → Except ReplyFailure (List UInt8)
  | [] => .error (invalid "unterminated string")
  | 34 :: rest => .ok rest
  | 92 :: rest =>
    match rest with
    | [] => .error (invalid "unterminated string")
    | e :: rest' =>
      if e == 34 || e == 92 || e == 47 || e == 98 || e == 102 || e == 110 || e == 114 || e == 116 then
        skipStringBody rest'
      else if e == 117 && (rest'.take 4).length == 4 && (rest'.take 4).all isHexDigit then
        skipStringBody (rest'.drop 4)
      else .error (invalid "invalid escape sequence in string")
  | _ :: rest => skipStringBody rest
termination_by bytes => bytes.length
decreasing_by all_goals simp only [List.length_cons, List.length_drop]; omega

/-- Reads an object's member name and its colon: the decoded name and the rest at the value. -/
def readKey (bs : List UInt8) : Except ReplyFailure (String × List UInt8) := do
  match ← readString bs with
  | none => throw (invalid "expected object key")
  | some (key, rest) =>
    match skipBlank rest with
    | 58 :: rest' => pure (key, skipBlank rest')
    | [] => throw (invalid "unexpected end of input in object")
    | _ => throw (invalid "expected `:` after object key")

/-- Skips an object's member name and its colon, checking the name as a skipped string. -/
def skipKey (bs : List UInt8) : Except ReplyFailure (List UInt8) := do
  match bs with
  | 34 :: rest =>
    let rest ← skipStringBody rest
    match skipBlank rest with
    | 58 :: rest' => pure (skipBlank rest')
    | [] => throw (invalid "unexpected end of input in object")
    | _ => throw (invalid "expected `:` after object key")
  | _ => throw (invalid "expected object key")

/-! ## Numbers and literals -/

/-- Skips the digits at the front. -/
def skipDigits (bs : List UInt8) : List UInt8 := bs.dropWhile isDigit

/-- Skips a number of the strict JSON grammar: an optional `-`, `0` or digits not starting with
`0`, an optional fraction with digits, an optional exponent with digits. -/
def skipNumber (bs : List UInt8) : Except ReplyFailure (List UInt8) := do
  let bad := invalid "invalid number"
  let bs := match bs with
    | 45 :: r => r
    | _ => bs
  let afterInt ← match bs with
    | 48 :: r => pure r
    | b :: _ => if isDigit b then pure (skipDigits bs) else throw bad
    | [] => throw bad
  let afterFrac ← match afterInt with
    | 46 :: r =>
      match r with
      | d :: _ => if isDigit d then pure (skipDigits r) else throw bad
      | [] => throw bad
    | _ => pure afterInt
  match afterFrac with
  | e :: r =>
    if e == 101 || e == 69 then
      let r := match r with
        | 43 :: r' | 45 :: r' => r'
        | _ => r
      match r with
      | d :: _ => if isDigit d then pure (skipDigits r) else throw bad
      | [] => throw bad
    else pure afterFrac
  | [] => pure afterFrac

/-- Skips a literal word that must stand at the front. -/
def skipLiteral (word : String) (bs : List UInt8) : Except ReplyFailure (List UInt8) :=
  if startsWithWord bs word then .ok (bs.drop word.utf8ByteSize) else .error (invalid "invalid literal")

/-! ## Skipping values -/

mutual

/-- Skips one value, checking its syntax. -/
def skipValue : Nat → List UInt8 → Except ReplyFailure (List UInt8)
  | 0, _ => .error (invalid "unexpected end of input")
  | fuel + 1, bs =>
    match bs with
    | 123 :: rest => do
      let (closed, r) ← openContainer 125 "object" rest
      if closed then pure r else skipMembers fuel r
    | 91 :: rest => do
      let (closed, r) ← openContainer 93 "array" rest
      if closed then pure r else skipItems fuel r
    | 34 :: rest => skipStringBody rest
    | 116 :: _ => skipLiteral "true" bs
    | 102 :: _ => skipLiteral "false" bs
    | 110 :: _ => skipLiteral "null" bs
    | b :: _ => if b == 45 || isDigit b then skipNumber bs else .error (invalid "unexpected token in skip_value")
    | [] => .error (invalid "unexpected end of input")

/-- Skips the members of an object from its first one to its closing brace. -/
def skipMembers : Nat → List UInt8 → Except ReplyFailure (List UInt8)
  | 0, _ => .error (invalid "unexpected end of input in object")
  | fuel + 1, bs => do
    let r ← skipKey bs
    let r ← skipValue fuel r
    let (closed, r) ← nextElement 125 "object" r
    if closed then pure r else skipMembers fuel r

/-- Skips the items of an array from its first one to its closing bracket. -/
def skipItems : Nat → List UInt8 → Except ReplyFailure (List UInt8)
  | 0, _ => .error (invalid "unexpected end of input in array")
  | fuel + 1, bs => do
    let r ← skipValue fuel bs
    let (closed, r) ← nextElement 93 "array" r
    if closed then pure r else skipItems fuel r

end

/-! ## Values of a shape -/

/-- Reads an integer: the run of number characters, read as a 64-bit signed decimal, held to
32 bits. -/
def readInteger (bs : List UInt8) : Except ReplyFailure (Json × List UInt8) :=
  let token := bs.takeWhile isNumberByte
  let rest := bs.drop token.length
  if token.isEmpty then .error (.typeMismatch "expected integer")
  else if token.any (fun b => b == 46 || b == 101 || b == 69) then
    .error (.typeMismatch "expected integer, found floating-point number")
  else
    match readSigned (Nat.pow 2 63) (Nat.pow 2 63 - 1) (asciiText token) with
    | .error e => .error (invalid e.message)
    | .ok n =>
      if -(Int.pow 2 31) ≤ n && n < Int.pow 2 31 then .ok (.int n, rest) else .error (invalid "value out of range for integer")

/-- Reads a boolean. -/
def readBoolean (bs : List UInt8) : Except ReplyFailure (Json × List UInt8) :=
  if startsWithWord bs "true" then .ok (.bool true, bs.drop 4)
  else if startsWithWord bs "false" then .ok (.bool false, bs.drop 5)
  else .error (.typeMismatch "expected boolean")

/-- Reads a timestamp: a number of seconds, or a string holding an RFC 3339 date-time. -/
def readTimestamp (bs : List UInt8) : Except ReplyFailure (Json × List UInt8) := do
  match ← readString bs with
  | some (s, rest) =>
    match Text.checkDateTime s with
    | .ok () => pure (.str s, rest)
    | .error f => throw (.custom ("invalid timestamp string: " ++ f.message))
  | none =>
    match bs with
    | b :: _ =>
      if b == 45 || isDigit b then
        let token := bs.takeWhile isNumberByte
        match checkFloat (asciiText token) with
        | .ok () => pure (.str (asciiText token), bs.drop token.length)
        | .error e => throw (invalid e.message)
      else throw (.typeMismatch "expected timestamp")
    | [] => throw (.typeMismatch "expected timestamp")

/-- Sets a member, replacing an earlier one. -/
def assign (fields : List (String × Json)) (name : String) (v : Json) : List (String × Json) :=
  fields.filter (·.1 != name) ++ [(name, v)]

mutual

/-- Reads a value of a shape. -/
def readShape : Nat → Shape → List UInt8 → Except ReplyFailure (Json × List UInt8)
  | 0, _, _ => .error (invalid "unexpected end of input")
  | fuel + 1, shape, bs =>
    match shape with
    | .text => do
      match ← readString bs with
      | some (s, rest) => pure (.str s, rest)
      | none => throw (.typeMismatch "expected string")
    | .integer => readInteger bs
    | .boolean => readBoolean bs
    | .timestamp => readTimestamp bs
    | .record ms =>
      match bs with
      | 123 :: rest => do
        let (closed, r) ← openContainer 125 "object" rest
        if closed then pure (.obj [], r) else readMembers fuel ms [] r
      | _ => .error (.typeMismatch "expected object")
    | .list item =>
      match bs with
      | 91 :: rest => do
        let (closed, r) ← openContainer 93 "array" rest
        if closed then pure (.arr [], r) else readItems fuel item [] r
      | _ => .error (.typeMismatch "expected array")
    | .map value =>
      match bs with
      | 123 :: rest => do
        let (closed, r) ← openContainer 125 "object" rest
        if closed then pure (.obj [], r) else readEntries fuel value [] r
      | _ => .error (.typeMismatch "expected object")

/-- Reads the members of a record from its first one to its closing brace. -/
def readMembers : Nat → List (String × Shape) → List (String × Json) → List UInt8 →
    Except ReplyFailure (Json × List UInt8)
  | 0, _, _, _ => .error (invalid "unexpected end of input in object")
  | fuel + 1, ms, acc, bs => do
    let (key, r) ← readKey bs
    let (acc, r) ← match ms.lookup key with
      | some shape =>
        if startsWithWord r "null" then pure (acc, r.drop 4)
        else do
          let (v, r) ← readShape fuel shape r
          pure (assign acc key v, r)
      | none => do pure (acc, ← skipValue fuel r)
    let (closed, r) ← nextElement 125 "object" r
    if closed then pure (.obj acc, r) else readMembers fuel ms acc r

/-- Reads the items of a list from its first one to its closing bracket. -/
def readItems : Nat → Shape → List Json → List UInt8 → Except ReplyFailure (Json × List UInt8)
  | 0, _, _, _ => .error (invalid "unexpected end of input in array")
  | fuel + 1, item, acc, bs => do
    let (v, r) ← readShape fuel item bs
    let (closed, r) ← nextElement 93 "array" r
    if closed then pure (.arr (acc ++ [v]), r) else readItems fuel item (acc ++ [v]) r

/-- Reads the entries of a map from its first one to its closing brace. -/
def readEntries : Nat → Shape → List (String × Json) → List UInt8 → Except ReplyFailure (Json × List UInt8)
  | 0, _, _, _ => .error (invalid "unexpected end of input in object")
  | fuel + 1, value, acc, bs => do
    let (key, r) ← readKey bs
    let (v, r) ← readShape fuel value r
    let acc := assign acc key v
    let (closed, r) ← nextElement 125 "object" r
    if closed then pure (.obj acc, r) else readEntries fuel value acc r

end

end Body

/-- The failure of text after the body's value. -/
def trailing : ReplyFailure := .invalidInput "unexpected trailing characters after the JSON value"

/-- Reads a body against the members of a record. Every step of the reader takes at least one
byte, so one more step than there are bytes reads it all. -/
def readReply (members : List (String × Shape)) (body : String) : Except ReplyFailure Json :=
  let bs := Body.skipBlank body.toUTF8.toList
  match bs with
  | [] => .ok (.obj [])
  | 123 :: rest => do
    let (closed, r) ← Body.openContainer 125 "object" rest
    let (j, r) ← if closed then pure (.obj [], r) else Body.readMembers (bs.length + 1) members [] r
    if (Body.skipBlank r).isEmpty then pure j else throw trailing
  | _ => .error (.typeMismatch "expected object")

end AccountRegistry.Remote
