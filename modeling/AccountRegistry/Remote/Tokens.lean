import AccountRegistry.Text.Utf8
/-!
# The token stream of a directory reply

A reply body is read as a stream of JSON tokens, one at a time, the way the identity
provider's client reads it:

- whitespace (space, tab, line feed, carriage return) between tokens is skipped;
- after a complete value a new one may start, so `{} {}` is two objects and anything else that
  follows a value is read as the start of a value, failing if it is none;
- strings and object keys keep their escaped text; the reader takes the byte after a
  backslash as part of the string without checking the escape, and refuses raw control
  characters; `unescape` decodes the escapes later;
- numbers are the longest run of `-+.eE` and digits: with `.`, `e` or `E` a float, else a
  64-bit integer, or a float when it does not fit;
- the stream ends at the end of the text, or at the first error, which is its last element.

Every error carries the byte offset where it was found.
-/

set_option autoImplicit false

namespace AccountRegistry.Remote

/-- A number token. -/
inductive NumberToken where
  /-- A non-negative integer below `2 ^ 64`. -/
  | positive (n : Nat)
  /-- A negative integer (or `-0`) of 64 bits. -/
  | negative (n : Int)
  /-- Any other number. -/
  | float
  deriving DecidableEq, Repr

/-- A token of a reply body. Keys and strings keep their escaped text. -/
inductive Token where
  | startObject
  | endObject
  | startArray
  | endArray
  | key (escaped : String)
  | text (escaped : String)
  | number (n : NumberToken)
  | bool (b : Bool)
  | null
  deriving DecidableEq, Repr

/-- What went wrong while reading a token. -/
inductive LexFault where
  | unexpectedToken (found : Char) (expected : String)
  | unexpectedEnd
  | expectedLiteral (word : String)
  | controlCharacter (b : Nat)
  | invalidNumber
  | invalidUtf8
  deriving DecidableEq, Repr

/-- A token error and the byte offset where it was found. -/
structure LexError where
  offset : Nat
  fault : LexFault
  deriving DecidableEq, Repr

/-- Uppercase hex digits of a number, without leading zeros. -/
def upperHex (n : Nat) : String :=
  String.ofList ((Nat.toDigits 16 n).map Char.toUpper)

/-- The text of a token error. -/
def LexError.text (e : LexError) : String :=
  "Error at offset " ++ toString e.offset ++ ": " ++
    match e.fault with
    | .unexpectedToken c expected => "unexpected token '" ++ String.singleton c ++ "'. Expected one of " ++ expected
    | .unexpectedEnd => "unexpected end of stream"
    | .expectedLiteral w => "expected literal: " ++ w
    | .controlCharacter b => "encountered unescaped control character in string: 0x" ++ upperHex b
    | .invalidNumber => "invalid number"
    | .invalidUtf8 => "invalid UTF-8 codepoint in JSON stream"

/-- Where the reader stands: at the top, or inside an array or object. -/
inductive Frame where
  | arrayFirst
  | arrayNext
  | objectFirst
  | objectNext
  | fieldValue
  deriving DecidableEq, Repr

/-- The reader: the bytes not yet read, the offset of the first of them, and the open
arrays and objects, innermost first. -/
structure Lexer where
  rest : List UInt8
  offset : Nat
  frames : List Frame

namespace Lexer

/-- Whether a byte is JSON whitespace. -/
def isBlank (b : UInt8) : Bool := b == 32 || b == 9 || b == 10 || b == 13

/-- Skips whitespace. -/
def skipBlank (l : Lexer) : Lexer :=
  let blank := l.rest.takeWhile isBlank
  { l with rest := l.rest.drop blank.length, offset := l.offset + blank.length }

/-- Moves past `n` bytes. -/
def advance (l : Lexer) (n : Nat) : Lexer :=
  { l with rest := l.rest.drop n, offset := l.offset + n }

/-- An error at the current offset. -/
def fail {α : Type} (l : Lexer) (f : LexFault) : Except LexError α := .error ⟨l.offset, f⟩

/-- The error for a missing byte: at the end of the text. -/
def endError {α : Type} (l : Lexer) : Except LexError α := .error ⟨l.offset + l.rest.length, .unexpectedEnd⟩

/-- A byte as the character it names on its own. -/
def byteChar (b : UInt8) : Char := Char.ofNat b.toNat

/-- Replaces the innermost frame. -/
def replaceFrame (l : Lexer) (f : Frame) : Lexer := { l with frames := f :: l.frames.drop 1 }

/-- Closes the innermost frame. -/
def popFrame (l : Lexer) : Lexer := { l with frames := l.frames.drop 1 }

/-- The length of a string's body, up to its closing quote: a backslash takes the byte
after it along unchecked, a raw control character is refused. -/
def stringLength : List UInt8 → Nat → Nat → Except LexError Nat
  | [], start, n => .error ⟨start + n, .unexpectedEnd⟩
  | b :: rest, start, n =>
    if b == 34 then .ok n
    else if b == 92 then
      match rest with
      | [] => .error ⟨start + n + 1, .unexpectedEnd⟩
      | _ :: rest' => stringLength rest' start (n + 2)
    else if b < 32 then .error ⟨start + n, .controlCharacter b.toNat⟩
    else stringLength rest start (n + 1)

/-- Reads a string whose opening quote is the next byte: its escaped text, and the reader
after the closing quote. -/
def readString (l : Lexer) : Except LexError (String × Lexer) := do
  let body := l.rest.drop 1
  let n ← stringLength body (l.offset + 1) 0
  match String.fromUTF8? (ByteArray.mk (body.take n).toArray) with
  | some s => pure (s, l.advance (n + 2))
  | none => .error ⟨l.offset + 1, .invalidUtf8⟩

/-- Whether a byte may be part of a number. -/
def isNumberByte (b : UInt8) : Bool :=
  b == 45 || b == 43 || b == 46 || b == 101 || b == 69 || (48 ≤ b && b ≤ 57)

/-- Whether every character is a decimal digit, and there is at least one. -/
def allDigits (cs : List Char) : Bool := !cs.isEmpty && cs.all Char.isDigit

/-- Whether a text is a decimal floating-point number: an optional sign, digits with an
optional fraction (at least one digit in all), and an optional exponent with digits. -/
def isFloatText (cs : List Char) : Bool :=
  let cs := match cs with
    | '+' :: r | '-' :: r => r
    | _ => cs
  let whole := cs.takeWhile Char.isDigit
  let cs := cs.drop whole.length
  let (frac, cs) := match cs with
    | '.' :: r => (r.takeWhile Char.isDigit, r.drop (r.takeWhile Char.isDigit).length)
    | _ => ([], cs)
  if whole.isEmpty && frac.isEmpty then false
  else match cs with
    | [] => true
    | c :: r =>
      if c == 'e' || c == 'E' then
        let r := match r with
          | '+' :: r' | '-' :: r' => r'
          | _ => r
        allDigits r
      else false

/-- The value of a digit text. -/
def digitsValue (cs : List Char) : Nat := cs.foldl (fun acc c => acc * 10 + (c.toNat - 48)) 0

/-- Reads a number token from its text. -/
def numberOf (cs : List Char) : Option NumberToken :=
  let asFloat : Option NumberToken := if isFloatText cs then some .float else none
  if cs.contains '.' || cs.contains 'e' || cs.contains 'E' then asFloat
  else match cs with
    | '-' :: ds =>
      if allDigits ds && digitsValue ds ≤ Nat.pow 2 63 then some (.negative (-(digitsValue ds : Int)))
      else asFloat
    | ds =>
      if allDigits ds && digitsValue ds < Nat.pow 2 64 then some (.positive (digitsValue ds)) else asFloat

/-- Reads the literal `word` (as bytes) with its token. -/
def literal (l : Lexer) (word : String) (t : Token) : Except LexError (Token × Lexer) :=
  let bytes := word.toUTF8.toList
  if l.rest.length < bytes.length then .error ⟨l.offset + l.rest.length, .unexpectedEnd⟩
  else if l.rest.take bytes.length == bytes then .ok (t, l.advance bytes.length)
  else l.fail (.expectedLiteral word)

/-- Reads a value's first token. -/
def readValue (l : Lexer) : Except LexError (Token × Lexer) :=
  let l := l.skipBlank
  match l.rest with
  | [] => l.endError
  | b :: _ =>
    if b == 123 then .ok (.startObject, { l.advance 1 with frames := .objectFirst :: l.frames })
    else if b == 91 then .ok (.startArray, { l.advance 1 with frames := .arrayFirst :: l.frames })
    else if b == 34 then do
      let (s, l') ← l.readString
      pure (.text s, l')
    else if b == 110 then l.literal "null" .null
    else if b == 102 then l.literal "false" (.bool false)
    else if b == 116 then l.literal "true" (.bool true)
    else if b == 45 || (48 ≤ b && b ≤ 57) then
      let run := l.rest.takeWhile isNumberByte
      match numberOf (run.map byteChar) with
      | some n => .ok (.number n, l.advance run.length)
      | none => l.fail .invalidNumber
    else l.fail (.unexpectedToken (byteChar b) "'\x7b', '[', '\"', 'null', 'true', 'false', <number>")

/-- Reads an object key and the colon after it. -/
def readKey (l : Lexer) : Except LexError (Token × Lexer) :=
  match l.rest with
  | [] => l.endError
  | b :: _ =>
    if b != 34 then l.fail (.unexpectedToken (byteChar b) "'\"'")
    else do
      let (k, l') ← l.readString
      let l' := l'.skipBlank
      match l'.rest with
      | [] => l'.endError
      | c :: _ =>
        if c == 58 then pure (.key k, (l'.advance 1).replaceFrame .fieldValue)
        else l'.fail (.unexpectedToken (byteChar c) "':'")

/-- The next token, or `none` at the end of the text between values. -/
def next (l : Lexer) : Option (Except LexError (Token × Lexer)) :=
  if l.rest.isEmpty then none
  else
    let l := l.skipBlank
    match l.frames with
    | [] => if l.rest.isEmpty then none else some l.readValue
    | .arrayFirst :: _ =>
      match l.rest with
      | [] => some l.endError
      | b :: _ =>
        if b == 93 then some (.ok (.endArray, (l.advance 1).popFrame))
        else some (l.replaceFrame .arrayNext).readValue
    | .arrayNext :: _ =>
      match l.rest with
      | [] => some l.endError
      | b :: _ =>
        if b == 93 then some (.ok (.endArray, (l.advance 1).popFrame))
        else if b == 44 then some (l.advance 1).readValue
        else some (l.fail (.unexpectedToken (byteChar b) "']', ','"))
    | .objectFirst :: _ =>
      match l.rest with
      | [] => some l.endError
      | b :: _ =>
        if b == 125 then some (.ok (.endObject, (l.advance 1).popFrame))
        else some l.readKey
    | .objectNext :: _ =>
      match l.rest with
      | [] => some l.endError
      | b :: _ =>
        if b == 125 then some (.ok (.endObject, (l.advance 1).popFrame))
        else if b == 44 then some (l.advance 1).skipBlank.readKey
        else some (l.fail (.unexpectedToken (byteChar b) "'\x7d', ','"))
    | .fieldValue :: _ => some (l.replaceFrame .objectNext).readValue

end Lexer

/-- A token stream: tokens, and at most one error, last. -/
abbrev TokenStream := List (Except LexError Token)

/-- The tokens of a lexer's text, at most `fuel` of them. -/
def Lexer.tokens : Nat → Lexer → TokenStream
  | 0, _ => []
  | fuel + 1, l =>
    match l.next with
    | none => []
    | some (.error e) => [.error e]
    | some (.ok (t, l')) => .ok t :: Lexer.tokens fuel l'

/-- The token stream of a text. Every token takes at least one byte, so one more step than
there are bytes reads it to its end. -/
def tokenize (s : String) : TokenStream :=
  let bytes := s.toUTF8.toList
  Lexer.tokens (bytes.length + 1) ⟨bytes, 0, []⟩

/-! ## Decoding escaped text -/

/-- What went wrong while decoding an escaped string. -/
inductive EscapeFault where
  | expectedSurrogatePair (found : String)
  | invalidEscapeCharacter (c : Char)
  | invalidSurrogatePair (high low : Nat)
  | invalidUnicodeEscape (escape : String)
  | invalidUtf8
  | unexpectedEndOfString
  deriving DecidableEq, Repr

/-- The text of a decoding error. -/
def EscapeFault.text : EscapeFault → String
  | .expectedSurrogatePair found => "expected a UTF-16 surrogate pair, but got " ++ found ++ " as the low word"
  | .invalidEscapeCharacter c => "invalid JSON escape: \\" ++ String.singleton c
  | .invalidSurrogatePair high low =>
    let pad (s : String) : String := String.ofList (List.replicate (4 - s.length) '0') ++ s
    "invalid surrogate pair: \\u" ++ pad (upperHex high) ++ "\\u" ++ pad (upperHex low)
  | .invalidUnicodeEscape escape => "invalid JSON Unicode escape: \\u" ++ escape
  | .invalidUtf8 => "invalid UTF-8 codepoint in JSON stream"
  | .unexpectedEndOfString => "unexpected end of string"

/-- The value of an ASCII hex digit byte. -/
def hexByteValue (b : UInt8) : Option Nat :=
  if 48 ≤ b && b ≤ 57 then some (b.toNat - 48)
  else if 97 ≤ b && b ≤ 102 then some (b.toNat - 87)
  else if 65 ≤ b && b ≤ 70 then some (b.toNat - 55)
  else none

/-- Reads `\uXXXX` at the start of the bytes as a 16-bit unit. -/
def readUnit (bytes : List UInt8) : Except EscapeFault Nat :=
  if bytes.length < 6 then .error .unexpectedEndOfString
  else if bytes.take 2 != [92, 117] then .error (.expectedSurrogatePair (Text.lossyString (bytes.take 6)))
  else
    let digits := (bytes.drop 2).take 4
    match digits.mapM hexByteValue with
    | some ds => .ok (ds.foldl (fun acc d => acc * 16 + d) 0)
    | none => .error (.invalidUnicodeEscape (Text.lossyString digits))

/-- Reads a `\u` escape, and a second one when the first is a high surrogate: the character
and the number of bytes read. -/
def readUnicodeEscape (bytes : List UInt8) : Except EscapeFault (Char × Nat) := do
  let high ← readUnit bytes
  if 0xD800 ≤ high && high ≤ 0xDBFF then
    let low ← readUnit (bytes.drop 6)
    if 0xDC00 ≤ low && low ≤ 0xDFFF then
      pure (Char.ofNat (0x10000 + (high - 0xD800) * 0x400 + (low - 0xDC00)), 12)
    else .error (.invalidSurrogatePair high low)
  else if 0xDC00 ≤ high && high ≤ 0xDFFF then .error (.invalidUnicodeEscape (Text.lossyString (bytes.take 6)))
  else pure (Char.ofNat high, 6)

/-- Decodes escaped bytes, at most `fuel` escapes and bytes. -/
def unescapeBytes : Nat → List UInt8 → Except EscapeFault (List UInt8)
  | 0, _ => .ok []
  | _ + 1, [] => .ok []
  | fuel + 1, b :: rest =>
    if b != 92 then (b :: ·) <$> unescapeBytes fuel rest
    else match rest with
      | [] => .error .unexpectedEndOfString
      | e :: rest' =>
        let simple (v : UInt8) := (v :: ·) <$> unescapeBytes fuel rest'
        if e == 92 || e == 47 || e == 34 then simple e
        else if e == 98 then simple 8
        else if e == 102 then simple 12
        else if e == 110 then simple 10
        else if e == 114 then simple 13
        else if e == 116 then simple 9
        else if e == 117 then do
          let (c, n) ← readUnicodeEscape (b :: rest)
          let tail ← unescapeBytes fuel ((b :: rest).drop n)
          pure ((String.singleton c).toUTF8.toList ++ tail)
        else .error (.invalidEscapeCharacter (Char.ofNat e.toNat))

/-- Decodes the escapes of a string's text. -/
def unescape (escaped : String) : Except EscapeFault String := do
  let bytes := escaped.toUTF8.toList
  let out ← unescapeBytes (bytes.length + 1) bytes
  match String.fromUTF8? (ByteArray.mk out.toArray) with
  | some s => pure s
  | none => .error .invalidUtf8

end AccountRegistry.Remote
