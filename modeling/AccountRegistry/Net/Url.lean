import AccountRegistry.Net.LooseIpv4
import AccountRegistry.Text.Utf8
/-!
# URLs

A URL read the way the WHATWG URL standard reads one without a base URL, as far as a
connection address needs: its scheme, user information, host, port, path and query.

- Leading and trailing control characters and spaces are cut, tabs and line breaks dropped.
- The scheme is a letter, then letters, digits and `+-.`, then `:`; without one the URL is
  relative, which needs a base.
- The special schemes `http`, `https`, `ws`, `wss` and `ftp` always have an authority, after
  any number of slashes or backslashes, and a backslash ends it as a slash does. Their host is
  percent-decoded and compared in lower case: a host ending in a number is an IPv4 address in
  the loose forms of `urlIpv4?`, anything else a domain without forbidden characters. Their
  default port is dropped.
- `file` URLs have a host only after two slashes, and never a port.
- Any other scheme has an authority only after `//`, and its host is kept as written, with
  control and non-ASCII characters percent-encoded; an empty host is no host.
- A port is digits up to the end of the authority, at most 65535; an empty port is no port.
-/

set_option autoImplicit false

namespace AccountRegistry.Net

/-- Why a URL could not be read. -/
inductive UrlError where
  | relativeWithoutBase
  | emptyHost
  | invalidPort
  | invalidDomainCharacter
  | invalidIpv4
  | invalidIpv6
  | idna
  deriving DecidableEq, Repr

/-- The text of a URL error. -/
def UrlError.message : UrlError → String
  | .relativeWithoutBase => "relative URL without a base"
  | .emptyHost => "empty host"
  | .invalidPort => "invalid port number"
  | .invalidDomainCharacter => "invalid domain character"
  | .invalidIpv4 => "invalid IPv4 address"
  | .invalidIpv6 => "invalid IPv6 address"
  | .idna => "invalid international domain name"

/-- The name of a URL error in diagnostics. -/
def UrlError.debugName : UrlError → String
  | .relativeWithoutBase => "RelativeUrlWithoutBase"
  | .emptyHost => "EmptyHost"
  | .invalidPort => "InvalidPort"
  | .invalidDomainCharacter => "InvalidDomainCharacter"
  | .invalidIpv4 => "InvalidIpv4Address"
  | .invalidIpv6 => "InvalidIpv6Address"
  | .idna => "IdnaError"

/-- How a scheme's authority is read. -/
inductive SchemeKind where
  /-- A special scheme other than `file`, with its default port. -/
  | special (defaultPort : Nat)
  | file
  | plain
  deriving DecidableEq, Repr

/-- The kind of a (lower-case) scheme. -/
def SchemeKind.ofScheme : String → SchemeKind
  | "http" | "ws" => .special 80
  | "https" | "wss" => .special 443
  | "ftp" => .special 21
  | "file" => .file
  | _ => .plain

/-- Whether a scheme kind is special. -/
def SchemeKind.isSpecial : SchemeKind → Bool
  | .plain => false
  | _ => true

/-- A URL's parts. User information and path keep their escapes. -/
structure Url where
  scheme : String
  username : String := ""
  password : Option String := none
  /-- The host as written back; `none` when the URL has none, or an empty one. -/
  host : Option String := none
  port : Option Nat := none
  /-- The path, backslashes of special schemes written as slashes. -/
  path : String := ""
  query : Option String := none
  deriving DecidableEq, Repr

/-- A URL without its leading and trailing control characters and spaces, and without tabs
and line breaks. -/
def cleanUrl (url : String) : List Char :=
  let cs := (url.toList.dropWhile (fun c => c.toNat ≤ 32)).reverse.dropWhile (fun c => c.toNat ≤ 32) |>.reverse
  cs.filter fun c => c != '\t' && c != '\n' && c != '\r'

/-- Whether a character ends an authority. -/
def endsAuthority (special : Bool) (c : Char) : Bool :=
  c == '/' || c == '?' || c == '#' || (special && c == '\\')

/-- The characters no host may hold. -/
def forbiddenHost (c : Char) : Bool :=
  c.toNat == 0 || c == '\t' || c == '\n' || c == '\r' || " #/:<>?@[\\]^|".toList.contains c

/-- The characters no domain may hold: those no host may hold, the other controls, `%` and
DEL. -/
def forbiddenDomain (c : Char) : Bool :=
  forbiddenHost c || c.toNat < 0x20 || c == '%' || c.toNat == 0x7F

/-- A domain character as domains are compared: ASCII letters in lower case, the full-width
forms of ASCII as those characters, the ideographic full stops as `.`, and the wide spaces as
a space. -/
def domainChar (c : Char) : Char :=
  let n := c.toNat
  let c := if 0xFF01 ≤ n && n ≤ 0xFF5E then Char.ofNat (n - 0xFEE0)
    else if n == 0x3002 || n == 0xFF61 then '.'
    else if n == 0xA0 || n == 0x3000 || (0x2000 ≤ n && n ≤ 0x200A) || n == 0x202F || n == 0x205F then ' '
    else c
  c.toLower

/-- Upper-case hex digits of a byte, two of them. -/
def byteHex (b : UInt8) : String :=
  let digit (n : Nat) : Char := if n < 10 then Char.ofNat (48 + n) else Char.ofNat (55 + n)
  String.ofList [digit (b.toNat / 16), digit (b.toNat % 16)]

/-- Percent-encodes the control and non-ASCII characters of a text. -/
def encodeControls (cs : List Char) : String :=
  String.join (cs.map fun c =>
    if c.toNat < 0x20 || c.toNat ≥ 0x7F then
      String.join ((String.singleton c).toUTF8.toList.map fun b => "%" ++ byteHex b)
    else String.singleton c)

/-- Reads a bracketed IPv6 host, written back in brackets. -/
def ipv6Host (raw : List Char) : Except UrlError String :=
  if raw.getLast? != some ']' then .error .invalidIpv6
  else
    match IpAddress.parse? (String.ofList ((raw.drop 1).dropLast)) with
    | some (.v6 gs) => .ok ("[" ++ (IpAddress.v6 gs).text ++ "]")
    | _ => .error .invalidIpv6

/-- Reads the host of a special scheme. -/
def specialHost (raw : List Char) : Except UrlError String :=
  match raw with
  | '[' :: _ => ipv6Host raw
  | _ =>
    match String.fromUTF8? (ByteArray.mk (Text.percentBytes (String.ofList raw).toUTF8.toList).toArray) with
    | none => .error .idna
    | some decoded =>
      let domain := decoded.toList.map domainChar
      if domain.any forbiddenDomain then .error .idna
      else if domain.isEmpty then .error .emptyHost
      else if endsInNumber domain then
        match urlIpv4? domain with
        | some os => .ok (ipv4Text os)
        | none => .error .invalidIpv4
      else .ok (String.ofList domain)

/-- Reads the host of a scheme that is not special. -/
def plainHost (raw : List Char) : Except UrlError String :=
  match raw with
  | '[' :: _ => ipv6Host raw
  | _ => if raw.any forbiddenHost then .error .invalidDomainCharacter else .ok (encodeControls raw)

/-- The value of a digit text. -/
def portValue (ds : List Char) : Nat := ds.foldl (fun acc c => acc * 10 + (c.toNat - '0'.toNat)) 0

/-- Reads a port after its colon, with the rest: digits up to a slash, backslash, `?` or `#`. -/
def readPort (cs : List Char) : Except UrlError (Option Nat × List Char) :=
  let ds := cs.takeWhile Char.isDigit
  let rest := cs.drop ds.length
  if portValue ds > 65535 then .error .invalidPort
  else match rest with
    | c :: _ =>
      if c == '/' || c == '\\' || c == '?' || c == '#' then .ok (if ds.isEmpty then none else some (portValue ds), rest)
      else .error .invalidPort
    | [] => .ok (if ds.isEmpty then none else some (portValue ds), rest)

/-- The host text of an authority: up to a colon outside brackets or the authority's end. -/
def hostText (special : Bool) : List Char → Bool → List Char
  | [], _ => []
  | c :: rest, inside =>
    if (c == ':' && !inside) || endsAuthority special c then []
    else c :: hostText special rest (if c == '[' then true else if c == ']' then false else inside)

/-- The user information and the rest of an authority: up to its last `@`, if it has one. -/
def splitUserinfo (special : Bool) (cs : List Char) : Option (List Char) × List Char :=
  let region := cs.takeWhile fun c => !endsAuthority special c
  if region.contains '@' then
    let afterAt := (region.reverse.takeWhile (· != '@')).length
    let userinfo := region.take (region.length - afterAt - 1)
    (some userinfo, cs.drop (userinfo.length + 1))
  else (none, cs)

/-- The path, query and rest of a URL after its authority. -/
def withTail (u : Url) (special : Bool) (cs : List Char) : Url :=
  let cs := cs.takeWhile (· != '#')
  let path := cs.takeWhile (· != '?')
  let path := if special then path.map fun c => if c == '\\' then '/' else c else path
  let query := match cs.drop path.length with
    | '?' :: q => some (String.ofList q)
    | _ => none
  { u with path := String.ofList path, query := query }

/-- Reads an authority and what follows it. -/
def readAuthority (u : Url) (kind : SchemeKind) (cs : List Char) : Except UrlError Url := do
  let special := kind.isSpecial
  let (userinfo, rest) := splitUserinfo special cs
  let u ← match userinfo with
    | none => pure u
    | some [] =>
      match rest with
      | c :: _ => if endsAuthority special c then throw .emptyHost else pure u
      | [] => pure u
    | some info =>
      let name := info.takeWhile (· != ':')
      let password := match info.drop name.length with
        | ':' :: p => some (String.ofList p)
        | _ => none
      pure { u with username := String.ofList name, password := password }
  let raw := hostText special rest false
  let rest := rest.drop raw.length
  let host ← match kind with
    | .special _ => if raw.isEmpty then throw .emptyHost else specialHost raw
    | _ => plainHost raw
  if host.isEmpty && rest.head? == some ':' then throw .emptyHost
  let (port, rest) ← match rest with
    | ':' :: r => readPort r
    | _ => pure (none, rest)
  let port := match kind, port with
    | .special d, some p => if p == d then none else some p
    | _, p => p
  pure (withTail { u with host := if host.isEmpty then none else some host, port := port } special rest)

/-- Reads a `file` URL after its scheme. -/
def readFile (u : Url) (cs : List Char) : Except UrlError Url :=
  let isSlash (c : Char) : Bool := c == '/' || c == '\\'
  match cs with
  | a :: b :: rest =>
    if isSlash a && isSlash b then
      let raw := rest.takeWhile fun c => !endsAuthority true c
      let after := rest.drop raw.length
      let drive := match raw with
        | [l, c] => l.isAlpha && (c == ':' || c == '|')
        | _ => false
      bif raw.isEmpty || drive then pure (withTail u true (bif drive then '/' :: rest else after))
      else
        (specialHost raw).map fun host =>
          withTail { u with host := if host == "localhost" then none else some host } true after
    else pure (withTail u true cs)
  | _ => pure (withTail u true cs)

/-- Reads a URL that needs no base. -/
def Url.parse (url : String) : Except UrlError Url := do
  let cs := cleanUrl url
  let isSchemeChar (c : Char) : Bool := c.isAlphanum || c == '+' || c == '-' || c == '.'
  let name := cs.takeWhile isSchemeChar
  match name, cs.drop name.length with
  | first :: _, ':' :: after =>
    if !first.isAlpha then throw .relativeWithoutBase
    let scheme := String.ofList (name.map Char.toLower)
    let u : Url := { scheme := scheme }
    match SchemeKind.ofScheme scheme with
    | .file => readFile u after
    | .special d => readAuthority u (.special d) (after.dropWhile fun c => c == '/' || c == '\\')
    | .plain =>
      match after with
      | '/' :: '/' :: auth => readAuthority u .plain auth
      | _ => pure (withTail u false after)
  | _, _ => throw .relativeWithoutBase

end AccountRegistry.Net
