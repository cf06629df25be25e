import AccountRegistry.Failure
import AccountRegistry.Json.Value

/-!
HTTP responses, and the response a classified failure turns into: its status, and a JSON
body with the kind and the message. A failure of unknown kind shows a fixed message, so
that internal details stay in the logs. JSON bodies are written by the writer the services
are given.
-/

set_option autoImplicit false

namespace AccountRegistry.Http

/-- A response: status, content type if any, and body text. -/
structure Response where
  status : Nat
  contentType : Option String
  body : String
  deriving DecidableEq, Repr

namespace Response

/-- The content type of JSON bodies. -/
def jsonType : String := "application/json"

/-- The content type of plain-text bodies. -/
def textType : String := "text/plain; charset=utf-8"

/-- A JSON body with status 200. -/
def json (write : Json → String) (j : Json) : Response := ⟨200, some jsonType, write j⟩

/-- A plain-text body. -/
def text (status : Nat) (s : String) : Response := ⟨status, some textType, s⟩

/-- A status without a body. -/
def empty (status : Nat) : Response := ⟨status, none, ""⟩

/-- The message a client sees for a failure. -/
def clientMessage (f : Failure) : String :=
  match f.kind with
  | .unknown => "Internal server error"
  | _ => f.message

/-- The status a number names: a number of three digits is a status, any other is answered as 500. -/
def statusCode (n : Nat) : Nat := if 100 ≤ n ∧ n ≤ 999 then n else 500

/-- The response for a classified failure. -/
def ofFailure (write : Json → String) (f : Failure) : Response :=
  ⟨statusCode f.status, some jsonType,
    write (Json.obj [("error", .str f.kind.name), ("message", .str (clientMessage f))])⟩

end Response

end AccountRegistry.Http
