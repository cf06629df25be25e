import AccountRegistry.Text.Utf8
/-!
# Request targets

A request target is read as an HTTP client library reads a URI, byte by byte:

- `/` followed by anything is a path with an optional `?query` and `#fragment`; the fragment
  is dropped without being checked, the path and query must be made of the bytes allowed there,
  which include every byte of a multi-byte character;
- a lone `*` is the asterisk form, any other single byte an authority;
- `http://` or `https://` (in any case), or a scheme of letters, digits and `+-.~` before `://`,
  starts an absolute URI: a non-empty remainder with an authority, then a path as above, which
  may be empty;
- anything else must be a bare authority.

An authority holds URI characters only; it may have user information before an `@`, one
bracketed IPv6 host, at most one port colon after them, and a `%` only in the user
information. The path of a URI with a scheme but no path is `/`.
-/

set_option autoImplicit false

namespace AccountRegistry.Http

/-- Why a request target cannot be read. -/
inductive UriError where
  | empty
  | invalidChar
  | invalidAuthority
  | invalidFormat
  | schemeTooLong
  | tooLong
  deriving DecidableEq, Repr

/-- The text of a target error. -/
def UriError.message : UriError → String
  | .empty => "empty string"
  | .invalidChar => "invalid uri character"
  | .invalidAuthority => "invalid authority"
  | .invalidFormat => "invalid format"
  | .schemeTooLong => "scheme too long"
  | .tooLong => "uri too long"

/-- A read request target. -/
structure Uri where
  /-- The scheme as shown: `http` and `https` in lower case, any other as written. -/
  scheme : Option String := none
  authority : Option String := none
  /-- The path and query, without the fragment; empty when the target has neither. -/
  pathAndQuery : String := ""
  deriving DecidableEq, Repr

namespace Uri

/-- The path: before the query, `/` when that is empty; empty for a target that has neither
a scheme nor a path. -/
def path (u : Uri) : String :=
  if u.pathAndQuery.isEmpty && u.scheme.isNone then ""
  else
    let p := (u.pathAndQuery.splitOn "?").headD ""
    if p.isEmpty then "/" else p

/-- The query, after the first `?`. -/
def query (u : Uri) : Option String :=
  match u.pathAndQuery.splitOn "?" with
  | _ :: rest@(_ :: _) => some ("?".intercalate rest)
  | _ => none

/-- The target as written back: scheme, authority, path and query. -/
def display (u : Uri) : String :=
  (u.scheme.map (· ++ "://")).getD "" ++ u.authority.getD "" ++ u.path ++
    ((u.query.map ("?" ++ ·)).getD "")

end Uri

/-- Bytes as text; the bytes read here are cut from a string at ASCII bytes, so they are
well formed. -/
def asciiText (bs : List UInt8) : String := Text.lossyString bs

/-- Whether a byte may stand in a path unencoded: the URI characters, the quote and braces,
and the bytes from 0x7F up. -/
def isPathByte (b : UInt8) : Bool :=
  b == 0x21 || (0x24 ≤ b && b ≤ 0x3B) || b == 0x3D || (0x40 ≤ b && b ≤ 0x5F) || (0x61 ≤ b && b ≤ 0x7A) ||
    b == 0x7C || b == 0x7E || b == 34 || b == 123 || b == 125 || 0x7F ≤ b

/-- Whether a byte may stand in a query. -/
def isQueryByte (b : UInt8) : Bool :=
  b == 0x21 || (0x24 ≤ b && b ≤ 0x3B) || b == 0x3D || 0x3F ≤ b

/-- Reads a path with its query, dropping the fragment. -/
def readPathAndQuery (bs : List UInt8) : Except UriError String :=
  let path := bs.takeWhile fun b => b != 63 && b != 35
  if !path.all isPathByte then .error .invalidChar
  else match bs.drop path.length with
    | 63 :: rest =>
      let query := rest.takeWhile (· != 35)
      if query.all isQueryByte then .ok (asciiText (path ++ 63 :: query)) else .error .invalidChar
    | _ => .ok (asciiText path)

/-- Whether a byte is a URI character of an authority (`%` and the delimiters apart). -/
def isAuthorityByte (b : UInt8) : Bool :=
  let c := Char.ofNat b.toNat
  c.isAlphanum || "!$&'()*+,-.;=_~:[]@".toList.contains c

/-- What has been seen of an authority so far. -/
structure AuthorityScan where
  colons : Nat := 0
  openBracket : Bool := false
  closeBracket : Bool := false
  percent : Bool := false
  atSign : Option Nat := none

/-- Scans an authority up to `/`, `?` or `#`: its length, once its bytes and shape are
checked. -/
def authorityEnd (bs : List UInt8) : Except UriError Nat :=
  let rec go : List UInt8 → Nat → AuthorityScan → Except UriError (Nat × AuthorityScan)
    | [], i, st => .ok (i, st)
    | b :: rest, i, st =>
      if b == 47 || b == 63 || b == 35 then .ok (i, st)
      else if b == 58 then
        if st.colons ≥ 8 then .error .invalidAuthority else go rest (i + 1) { st with colons := st.colons + 1 }
      else if b == 91 then
        if st.percent || st.openBracket then .error .invalidAuthority
        else go rest (i + 1) { st with openBracket := true }
      else if b == 93 then
        if !st.openBracket || st.closeBracket then .error .invalidAuthority
        else go rest (i + 1) { st with closeBracket := true, colons := 0, percent := false }
      else if b == 64 then go rest (i + 1) { st with atSign := some i, colons := 0, percent := false }
      else if b == 37 then go rest (i + 1) { st with percent := true }
      else if isAuthorityByte b then go rest (i + 1) st
      else .error .invalidChar
  match go bs 0 {} with
  | .error e => .error e
  | .ok (n, st) =>
    if st.openBracket != st.closeBracket then .error .invalidAuthority
    else if st.colons > 1 then .error .invalidAuthority
    else if n > 0 && st.atSign == some (n - 1) then .error .invalidAuthority
    else if st.percent then .error .invalidAuthority
    else .ok n

/-- Whether a byte may be part of a scheme. -/
def isSchemeByte (b : UInt8) : Bool :=
  let c := Char.ofNat b.toNat
  c.isAlphanum || c == '+' || c == '-' || c == '.' || c == '~'

/-- Whether bytes start with an ASCII text, in any case. -/
def startsWithFold (bs : List UInt8) (lead : String) : Bool :=
  let p := lead.toList
  bs.length ≥ p.length &&
    ((bs.take p.length).zip p).all fun (b, c) => (Char.ofNat b.toNat).toLower == c.toLower

/-- The scheme an absolute target starts with, as shown, and the bytes after its `://`. -/
def schemeOf (bs : List UInt8) : Except UriError (Option (String × List UInt8)) :=
  if startsWithFold bs "http://" then .ok (some ("http", bs.drop 7))
  else if startsWithFold bs "https://" then .ok (some ("https", bs.drop 8))
  else if bs.length > 3 then
    let name := bs.takeWhile isSchemeByte
    let i := name.length
    match bs.drop i with
    | 58 :: 47 :: 47 :: rest =>
      if i > 64 then .error .schemeTooLong else .ok (some (asciiText name, rest))
    | _ => .ok none
  else .ok none

/-- Reads a request target. -/
def Uri.parse (s : String) : Except UriError Uri :=
  let bs := s.toUTF8.toList
  if bs.length > 65534 then .error .tooLong
  else match bs with
    | [] => .error .empty
    | [47] => .ok { pathAndQuery := "/" }
    | [42] => .ok { pathAndQuery := "*" }
    | [b] => do
      let n ← authorityEnd [b]
      if n != 1 then .error .invalidChar else pure { authority := some (asciiText [b]) }
    | 47 :: _ => do pure { pathAndQuery := ← readPathAndQuery bs }
    | _ => do
      match ← schemeOf bs with
      | none =>
        let n ← authorityEnd bs
        if n != bs.length then .error .invalidFormat else pure { authority := some (asciiText bs) }
      | some (scheme, rest) =>
        if rest.isEmpty then .error .empty else
        let n ← authorityEnd rest
        if n == 0 then .error .invalidFormat
        else
          let pq ← readPathAndQuery (rest.drop n)
          pure { scheme := some scheme, authority := some (asciiText (rest.take n)), pathAndQuery := pq }

end AccountRegistry.Http
