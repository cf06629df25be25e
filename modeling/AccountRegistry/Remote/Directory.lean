import AccountRegistry.Remote.Servers

/-!
A user directory the program is run against, as an HTTP service: users keyed by name, each
with attributes, a temporary and a permanent password, and groups. `Remote.Client` reads its
replies as the provider's client does.

The directory answers four requests. Creating a user that exists, or touching a user that
does not, is refused; a login succeeds when the password equals the user's permanent one
and gives the token `access-<user>`.

A fault can be planted for the next request of an operation. It is spent by that request,
which is then held for the fault's delay and answered by the fault: a dropped connection, a
raw body, an error with a status, or else a server error. A request answered by a fault
changes nothing.
-/

set_option autoImplicit false

namespace AccountRegistry.Remote

/-- A user of the directory. -/
structure Member where
  username : String
  attributes : List (String × String) := []
  temporaryPassword : Option String := none
  password : Option String := none
  groups : List String := []
  deriving DecidableEq, Repr

/-- A fault planted for the next request of an operation. -/
structure Fault where
  delayMs : Nat := 0
  close : Bool := false
  raw : Option String := none
  status : Option Nat := none
  errorType : Option String := none
  message : Option String := none
  deriving DecidableEq, Repr

/-- How the directory answers: an HTTP status with a body, or a dropped connection. -/
inductive Reply where
  | response (status : Nat) (body : String)
  | dropped
  deriving DecidableEq, Repr

/-- The body of an error, without the parts that are absent. -/
def errorBody (errorType message : Option String) : String :=
  let parts := (errorType.map fun t => ("__type", Json.str t)).toList ++ (message.map fun m => ("message", Json.str m)).toList
  (Json.obj parts).write

/-- A refusal with an error type and message. -/
def refuse (errorType message : String) : Reply := .response 400 (errorBody (some errorType) (some message))

/-- The reply of a fault. -/
def Fault.reply (f : Fault) : Reply :=
  if f.close then .dropped
  else match f.raw, f.status with
    | some body, s => .response (s.getD 200) body
    | none, some s => .response s (errorBody f.errorType f.message)
    | none, none => .response 500 (errorBody (some "InternalErrorException") (some "delayed request abandoned"))

/-- The directory. -/
structure Directory where
  users : List Member := []
  faults : List (String × Fault) := []
  deriving Repr

namespace Directory

/-- The user with a name. -/
def find? (d : Directory) (name : String) : Option Member := d.users.find? (·.username == name)

/-- The directory with a user changed. -/
def update (d : Directory) (name : String) (f : Member → Member) : Directory :=
  { d with users := d.users.map fun u => if u.username == name then f u else u }

/-- Adds a user, replacing one of the same name. -/
def put (d : Directory) (m : Member) : Directory :=
  if (d.find? m.username).isSome then d.update m.username fun _ => m
  else { d with users := d.users ++ [m] }

/-- Plants a fault for the next request of an operation, replacing one planted before. -/
def plant (d : Directory) (op : String) (f : Fault) : Directory :=
  { d with faults := (op, f) :: d.faults.filter (·.1 != op) }

/-- The fault planted for an operation, and the directory without it. -/
def takeFault (d : Directory) (op : String) : Option Fault × Directory :=
  match d.faults.find? (·.1 == op) with
  | some (_, f) => (some f, { d with faults := d.faults.filter (·.1 != op) })
  | none => (none, d)

/-- The refusal of a request on a user that does not exist. -/
def noUser : Reply := refuse "UserNotFoundException" "User does not exist."

/-- Serves a request without faults. -/
def serve (d : Directory) : DirectoryRequest → Reply × Directory
  | .createUser _ user temp attrs =>
    if (d.find? user).isSome then (refuse "UsernameExistsException" "User account already exists", d)
    else (.response 200 "\x7b\x7d", d.put ⟨user, attrs, some temp, none, []⟩)
  | .setPassword _ user pw permanent =>
    if (d.find? user).isSome then
      (.response 200 "\x7b\x7d", d.update user fun m =>
        if permanent then { m with password := some pw } else { m with temporaryPassword := some pw })
    else (noUser, d)
  | .addToGroup _ user group =>
    if (d.find? user).isSome then
      (.response 200 "\x7b\x7d", d.update user fun m =>
        if m.groups.contains group then m else { m with groups := m.groups ++ [group] })
    else (noUser, d)
  | .initiateAuth _ user pw =>
    match d.find? user with
    | some m =>
      if m.password == some pw then
        let result := Json.obj [("AuthenticationResult", .obj [("AccessToken", .str ("access-" ++ user)),
          ("ExpiresIn", .int 3600), ("TokenType", .str "Bearer")])]
        (.response 200 result.write, d)
      else (refuse "NotAuthorizedException" "Incorrect username or password.", d)
    | none => (refuse "NotAuthorizedException" "Incorrect username or password.", d)

/-- Handles a request: the delay before the reply, the reply, and the directory after. -/
def handle (d : Directory) (r : DirectoryRequest) : Nat × Reply × Directory :=
  match d.takeFault r.operation with
  | (some f, d) => (f.delayMs, f.reply, d)
  | (none, d) => let (reply, d) := d.serve r; (0, reply, d)

end Directory

end AccountRegistry.Remote
