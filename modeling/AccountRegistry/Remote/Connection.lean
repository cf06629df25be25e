import AccountRegistry.Net.Url
import AccountRegistry.Number.Text
import AccountRegistry.Text.Utf8
import AccountRegistry.Text.Unicode

/-!
Where a database URL leads, and what a connection to it meets.

The settings start from the process environment: the host of `PGHOST`, else `localhost`;
the port of `PGPORT` when it reads as one, else 5432; the encryption mode of `PGSSLMODE`
when it reads as one, else encryption when the server offers it. The URL (see `Net.Url`)
then gives its host, port, user name, password and database, whose escapes must decode to
UTF-8, and last its query parameters, in order.

A host that starts with `/` once decoded is a directory of local sockets. Any other host
is resolved: an IP address, one of the resolver's numeric IPv4 forms, or `localhost`; other
names cannot be resolved here. The local network has three listeners on the loopback
interface: the database, the user directory and the server. A connection to another port
is refused.
-/

set_option autoImplicit false

namespace AccountRegistry.Remote

/-- The port the database listens on. -/
def databasePort : Nat := 54320

/-- The port the user directory listens on. -/
def directoryPort : Nat := 54330

/-- The port a server is given when its configuration does not choose one. -/
def serverPort : Nat := 54340

/-- The port a database URL names when it names none. -/
def defaultDatabasePort : Nat := 5432

/-- What a connection attempt meets. -/
inductive Reach where
  /-- The database answers. -/
  | database
  /-- Nothing listens there. -/
  | refused
  /-- The host name cannot be resolved. -/
  | unresolved
  /-- The socket directory holds no database socket. -/
  | noSocket
  deriving DecidableEq, Repr

/-- The address a host name resolves to: an IP address, one of the resolver's numeric IPv4
forms, or `localhost` (in any case) as the loopback address. -/
def resolve (host : String) : Option Net.IpAddress :=
  match Net.IpAddress.parse? host with
  | some a => some a
  | none =>
    match Net.resolverIpv4? host with
    | some os => some (.v4 os)
    | none => if String.ofList (host.toList.map Char.toLower) == "localhost" then some (.v4 [127, 0, 0, 1]) else none

/-- Whether an address is on the loopback interface, or the unspecified address, which
reaches it. -/
def isLocal : Net.IpAddress → Bool
  | .v4 octets => octets.head? == some 127 || octets.all (· == 0)
  | .v6 _ => false

/-! ## Connection settings -/

/-- How a connection negotiates encryption. -/
inductive SslMode where
  | disable
  | allow
  | prefer
  | require
  | verifyCa
  | verifyFull
  deriving DecidableEq, Repr

/-- Reads an encryption mode, in any case of ASCII letters. -/
def SslMode.ofText? (s : String) : Option SslMode :=
  match String.ofList (s.toList.map Char.toLower) with
  | "disable" => some .disable
  | "allow" => some .allow
  | "prefer" => some .prefer
  | "require" => some .require
  | "verify-ca" => some .verifyCa
  | "verify-full" => some .verifyFull
  | _ => none

/-- Whether a mode refuses a connection without encryption. -/
def SslMode.demandsEncryption : SslMode → Bool
  | .require | .verifyCa | .verifyFull => true
  | _ => false

/-- Why the connection settings of a URL cannot be used. -/
inductive SettingFault where
  /-- The URL itself cannot be read. -/
  | url (e : Net.UrlError)
  /-- A part of the URL whose escapes do not decode to UTF-8. -/
  | text (f : Text.Utf8Fault)
  /-- An encryption mode that is none of the known ones. -/
  | sslMode (value : String)
  /-- A number setting that is not an unsigned integer of its width. -/
  | integer (e : IntegerTextError)
  /-- A host address that is not an IP address. -/
  | address
  deriving DecidableEq, Repr

namespace SettingFault

/-- The text of an unknown encryption mode. -/
def sslModeText (value : String) : String :=
  "unknown value " ++ Text.debugQuote value ++ " for `ssl_mode`"

/-- The human-readable text. -/
def message : SettingFault → String
  | .url e => e.message
  | .text f => f.message
  | .sslMode v => "error with configuration: " ++ sslModeText v
  | .integer e => e.message
  | .address => "invalid IP address syntax"

/-- The diagnostic form. -/
def debugText : SettingFault → String
  | .url e => e.debugName
  | .text f => f.debugText
  | .sslMode v => "Configuration(" ++ Text.debugQuote (sslModeText v) ++ ")"
  | .integer e =>
    "ParseIntError \x7b kind: " ++
      (match e with
        | .empty => "Empty"
        | .invalidDigit => "InvalidDigit"
        | .tooLarge => "PosOverflow"
        | .tooSmall => "NegOverflow") ++ " \x7d"
  | .address => "AddrParseError(Ip)"

end SettingFault

/-- The settings of a connection: where it goes, how it encrypts, and the query parameters
that mean nothing to it. -/
structure ConnectOptions where
  host : String := "localhost"
  port : Nat := defaultDatabasePort
  /-- A socket directory given by the URL. -/
  socket : Option String := none
  sslMode : SslMode := .prefer
  ignored : List (String × String) := []
  deriving Repr

/-- The name and value pairs of a query, in order: components separated by `&`, empty ones
skipped, each split at its first `=`, `+` read as a space and `%xx` escapes decoded. -/
def formPairs (query : String) : List (String × String) :=
  let decode (cs : List Char) : String :=
    Text.lossyString (Text.percentBytes (String.ofList (cs.map fun c => if c == '+' then ' ' else c)).toUTF8.toList)
  (query.splitOn "&").filterMap fun part =>
    if part.isEmpty then none
    else
      let cs := part.toList
      let name := cs.takeWhile (· != '=')
      some (decode name, decode ((cs.drop name.length).drop 1))

namespace ConnectOptions

/-- The settings before a URL is read, from the variables of the environment. -/
def ofVariables (var? : String → Option String) : ConnectOptions :=
  { host := (var? "PGHOST").getD "localhost",
    port := ((var? "PGPORT").bind fun v => (readUnsigned 65535 v).toOption).getD defaultDatabasePort,
    sslMode := ((var? "PGSSLMODE").bind SslMode.ofText?).getD .prefer }

/-- Checks that a part of the URL decodes. -/
def decodes (part : String) : Except SettingFault Unit :=
  match Text.decodeEscapes part with
  | .ok _ => .ok ()
  | .error f => .error (.text f)

/-- Takes the host, port, user name, password and database of a URL. -/
def withUrl (o : ConnectOptions) (u : Net.Url) : Except SettingFault ConnectOptions := do
  let o ← match u.host with
    | none => pure o
    | some h =>
      let bytes := Text.percentBytes h.toUTF8.toList
      if bytes.head? == some 47 then
        match Text.decodeUtf8 bytes with
        | .ok dir => pure { o with socket := some dir }
        | .error f => throw (.text f)
      else pure { o with host := h }
  let o := match u.port with
    | some p => { o with port := p }
    | none => o
  if !u.username.isEmpty then decodes u.username
  if let some p := u.password then decodes p
  let database := String.ofList (u.path.toList.dropWhile (· == '/'))
  if !database.isEmpty then decodes database
  pure o

/-- Applies one query parameter to the settings. -/
def apply (o : ConnectOptions) (p : String × String) : Except SettingFault ConnectOptions :=
  let (key, value) := p
  if key == "sslmode" || key == "ssl-mode" then
    match SslMode.ofText? value with
    | some m => .ok { o with sslMode := m }
    | none => .error (.sslMode value)
  else if key == "statement-cache-capacity" then
    match readUnsigned (Nat.pow 2 64 - 1) value with
    | .ok _ => .ok o
    | .error e => .error (.integer e)
  else if key == "host" then
    if value.startsWith "/" then .ok { o with socket := some value }
    else .ok { o with host := value }
  else if key == "hostaddr" then
    match Net.IpAddress.parse? value with
    | some _ => .ok { o with host := value }
    | none => .error .address
  else if key == "port" then
    match readUnsigned 65535 value with
    | .ok n => .ok { o with port := n }
    | .error e => .error (.integer e)
  else if ["sslrootcert", "ssl-root-cert", "ssl-ca", "sslcert", "ssl-cert", "sslkey", "ssl-key", "dbname",
      "user", "password", "application_name", "options"].contains key || key.startsWith "options[" then .ok o
  else .ok { o with ignored := o.ignored ++ [(key, value)] }

/-- What a connection with these settings meets: a socket directory (given, or a host that
is a path) holds no database socket; a host, without the brackets around an IPv6 address, is
resolved, and only the database's port on a local address answers. -/
def reach (o : ConnectOptions) : Reach :=
  if o.socket.isSome || o.host.startsWith "/" then .noSocket
  else
    let isBracket (c : Char) : Bool := c == '[' || c == ']'
    let host := String.ofList ((o.host.toList.dropWhile isBracket).reverse.dropWhile isBracket).reverse
    match resolve host with
    | some a => if isLocal a && o.port == databasePort then .database else .refused
    | none => .unresolved

end ConnectOptions

/-- Reads the connection settings of a database URL over those of the environment: its
parts, then its query parameters in order. -/
def optionsOf (var? : String → Option String) (url : String) : Except SettingFault ConnectOptions := do
  let u ← match Net.Url.parse url with
    | .ok u => pure u
    | .error e => throw (.url e)
  let o ← (ConnectOptions.ofVariables var?).withUrl u
  (formPairs (u.query.getD "")).foldlM ConnectOptions.apply o

end AccountRegistry.Remote
