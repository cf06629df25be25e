/-!
Reading a `Content-Type` value as a media type `type/subtype` with optional parameters, to
decide whether a body is JSON.

Names are made of token characters: letters, digits and ``!#$%&'*+-.^_`|~``. The type is one
or more of them before `/`. The subtype runs to `;` or the end; a `+` after its first
character marks a suffix, and the last such `+` wins: the subtype proper is what comes
before it and the suffix what comes after. After the `;` come parameters, each after optional
leading blanks: a name, `=`, and a value, either token characters (then `;` or the end; only
the last value may be empty) or a quoted text. A quoted text opens with `"`, takes its first
character whatever it is (a `"` too) and closes at the next `"`; its characters are visible
ASCII or blank, and it is followed by blanks, then `;` or the end. A `;` at the very end, or
one followed only by blanks, is allowed. Letter case does not matter in the type, subtype and
suffix. Any other character anywhere makes the value unreadable.
-/

set_option autoImplicit false

namespace AccountRegistry.Http

/-- A token character: allowed in a type, subtype, parameter name or plain value. -/
def isNameChar (c : Char) : Bool :=
  ('a' ≤ c && c ≤ 'z') || ('A' ≤ c && c ≤ 'Z') || ('0' ≤ c && c ≤ '9') || "!#$%&'*+-.^_`|~".toList.contains c

/-- A character allowed inside a quoted parameter value. -/
def isQuotedChar (c : Char) : Bool := 31 < c.toNat && c.toNat != 127

/-- Whether what follows a quoted value's first character is well formed: the rest of the
value up to its closing quote, blanks, then `;` and more parameters, or the end. -/
def quotedTailOk (params : List Char → Bool) (cs : List Char) : Bool :=
  let inside := cs.takeWhile fun c => c != '"' && isQuotedChar c
  match cs.drop inside.length with
  | '"' :: after =>
    match after.dropWhile (· == ' ') with
    | [] => true
    | ';' :: more => params more
    | _ => false
  | _ => false

/-- Whether a parameter list after a `;` is well formed; `fuel` bounds the steps. -/
def paramsOk : Nat → List Char → Bool
  | 0, _ => false
  | _ + 1, [] => true
  | fuel + 1, ' ' :: rest => paramsOk fuel rest
  | fuel + 1, cs =>
    let name := cs.takeWhile isNameChar
    match cs.drop name.length with
    | '=' :: rest =>
      if name.isEmpty then false
      else
        match rest with
        | '"' :: first :: quoted => isQuotedChar first && quotedTailOk (paramsOk fuel) quoted
        | '"' :: [] => false
        | _ =>
          let value := rest.takeWhile isNameChar
          match rest.drop value.length with
          | [] => true
          | ';' :: more => !value.isEmpty && paramsOk fuel more
          | _ => false
    | _ => false

/-- The subtype's characters up to its marking `+` (the last one after its first character),
and the suffix after that `+`, if there is one. -/
def splitSuffix (sub : List Char) : List Char × Option (List Char) :=
  match sub with
  | [] => ([], none)
  | first :: rest =>
    let tail := (rest.reverse.takeWhile (· != '+')).reverse
    if tail.length < rest.length then
      (first :: rest.take (rest.length - tail.length - 1), some tail)
    else (sub, none)

/-- Whether a `Content-Type` value reads as a JSON media type: type `application` and subtype
`json` or a `json` suffix. -/
def isJsonMediaType (value : String) : Bool :=
  let cs := value.toList
  let ty := cs.takeWhile isNameChar
  match cs.drop ty.length with
  | '/' :: rest =>
    let sub := rest.takeWhile isNameChar
    let wellFormed := match rest.drop sub.length with
      | [] => true
      | ';' :: more => !sub.isEmpty && paramsOk (2 * more.length + 2) more
      | _ => false
    let lower (xs : List Char) : String := String.ofList (xs.map Char.toLower)
    let (proper, suffix) := splitSuffix sub
    !ty.isEmpty && wellFormed && lower ty == "application" &&
      (lower proper == "json" || suffix.map lower == some "json")
  | _ => false

end AccountRegistry.Http
