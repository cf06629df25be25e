/-!
JSON values with objects kept as ordered member lists, and their compact written form.

Members stay in the order they were built or read, since the written form of a record
lists its fields in declaration order. The writer puts no blank between tokens; in a
string it escapes the quote, the backslash and the control characters (the five with a
short form as `\b \f \n \r \t`, the rest as `\u00xx` in lowercase hex), and writes every
other character as it is.
-/

set_option autoImplicit false

namespace AccountRegistry

/-- A JSON value. Numbers are integers, or decimals `mantissa / 10 ^ scale` for the rare
input that carries a fraction. -/
inductive Json where
  | null
  | bool (b : Bool)
  | int (n : Int)
  | decimal (mantissa : Int) (scale : Nat)
  | str (s : String)
  | arr (items : List Json)
  | obj (members : List (String × Json))
  deriving Repr, Inhabited

namespace Json

/-- The value of the first member named `k`, if this is an object that has one. -/
def field? (j : Json) (k : String) : Option Json :=
  match j with
  | .obj ms => (ms.find? (·.1 == k)).map (·.2)
  | _ => none

/-- The text of a string value. -/
def getStr? : Json → Option String
  | .str s => some s
  | _ => none

/-- The integer of an integral number. -/
def getInt? : Json → Option Int
  | .int n => some n
  | _ => none

/-- The truth value of a boolean. -/
def getBool? : Json → Option Bool
  | .bool b => some b
  | _ => none

/-- The items of an array. -/
def getArr? : Json → Option (List Json)
  | .arr xs => some xs
  | _ => none

/-- The members of an object. -/
def getObj? : Json → Option (List (String × Json))
  | .obj ms => some ms
  | _ => none

/-- A member's value, treating an explicit null as absent. -/
def opt? (j : Json) (k : String) : Option Json :=
  match j.field? k with
  | some .null => none
  | v => v

/-- A string member, treating null as absent. -/
def strField? (j : Json) (k : String) : Option String := (j.opt? k).bind getStr?

/-- An integer member, treating null as absent. -/
def intField? (j : Json) (k : String) : Option Int := (j.opt? k).bind getInt?

/-- A boolean member, treating null as absent. -/
def boolField? (j : Json) (k : String) : Option Bool := (j.opt? k).bind getBool?

/-- A string value, or null for none. -/
def ofOption (s : Option String) : Json :=
  match s with
  | some v => .str v
  | none => .null

/-- The lowercase hex digit of a value below 16. -/
def hexDigit (n : Nat) : Char :=
  if n < 10 then Char.ofNat ('0'.toNat + n) else Char.ofNat ('a'.toNat + n - 10)

/-- The escaped form of one character inside a written string. -/
def escapeChar (c : Char) : List Char :=
  if c == '"' then ['\\', '"']
  else if c == '\\' then ['\\', '\\']
  else if c == '\n' then ['\\', 'n']
  else if c == '\r' then ['\\', 'r']
  else if c == '\t' then ['\\', 't']
  else if c.toNat == 8 then ['\\', 'b']
  else if c.toNat == 12 then ['\\', 'f']
  else if c.toNat < 32 then ['\\', 'u', '0', '0', hexDigit (c.toNat / 16), hexDigit (c.toNat % 16)]
  else [c]

/-- A string in quotes, escaped. -/
def quote (s : String) : String :=
  String.ofList ('"' :: (s.toList.flatMap escapeChar ++ ['"']))

/-- The decimal text of `m / 10 ^ k`. -/
def decimalText (m : Int) (k : Nat) : String :=
  if k = 0 then toString m
  else
    let digits := toString m.natAbs
    let padded := String.ofList (List.replicate (k + 1 - digits.length) '0') ++ digits
    let cut := padded.length - k
    (if m < 0 then "-" else "") ++ String.ofList (padded.toList.take cut) ++ "." ++
      String.ofList (padded.toList.drop cut)

mutual
/-- The compact written form. -/
def write : Json → String
  | .null => "null"
  | .bool b => if b then "true" else "false"
  | .int n => toString n
  | .decimal m k => decimalText m k
  | .str s => quote s
  | .arr xs => "[" ++ writeItems xs ++ "]"
  | .obj ms => "\x7b" ++ writeMembers ms ++ "\x7d"

/-- Array items, comma-separated. -/
def writeItems : List Json → String
  | [] => ""
  | [x] => write x
  | x :: xs => write x ++ "," ++ writeItems xs

/-- Object members, comma-separated. -/
def writeMembers : List (String × Json) → String
  | [] => ""
  | [(k, v)] => quote k ++ ":" ++ write v
  | (k, v) :: ms => quote k ++ ":" ++ write v ++ "," ++ writeMembers ms
end

end Json

end AccountRegistry
