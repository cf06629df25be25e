/-!
IP addresses: reading their text forms and writing them back.

An IPv4 address is four decimal octets separated by dots, each of one to three digits,
at most 255, and without a leading zero unless it is the single digit 0. An IPv6 address
is up to eight groups of one to four hex digits separated by colons, where one `::` stands
for at least one group of zeros, and the last two groups may be written as an IPv4
address. Nothing else is accepted: no zone, no brackets, no port, no blanks.

An IPv6 address is written in lowercase hex without leading zeros, its longest run of two
or more zero groups (the first of equal runs) shortened to `::`; an address of the form
`::ffff:a.b.c.d` is written that way.
-/

set_option autoImplicit false

namespace AccountRegistry.Net

/-- An IP address. -/
inductive IpAddress where
  | v4 (octets : List Nat)
  | v6 (groups : List Nat)
  deriving DecidableEq, Repr

/-- The value of a digit in a radix up to 16, if the character is one. -/
def digitValue (radix : Nat) (c : Char) : Option Nat :=
  let v : Option Nat :=
    if '0' ≤ c && c ≤ '9' then some (c.toNat - '0'.toNat)
    else if 'a' ≤ c && c ≤ 'f' then some (c.toNat - 'a'.toNat + 10)
    else if 'A' ≤ c && c ≤ 'F' then some (c.toNat - 'A'.toNat + 10)
    else none
  v.bind fun d => if d < radix then some d else none

/-- Reads a number of at most `maxDigits` digits below `limit` from the front of the text,
with the rest. A leading zero followed by more digits is refused unless `zeroPrefix`. -/
def number (radix maxDigits limit : Nat) (zeroPrefix : Bool) (cs : List Char) : Option (Nat × List Char) :=
  let ds := cs.takeWhile (fun c => (digitValue radix c).isSome)
  let rest := cs.drop ds.length
  let value := ds.foldl (fun acc c => acc * radix + (digitValue radix c).getD 0) 0
  if ds.isEmpty || ds.length > maxDigits || value ≥ limit then none
  else if !zeroPrefix && ds.length > 1 && ds.head? == some '0' then none
  else some (value, rest)

/-- Reads an IPv4 address from the front of the text, with the rest. -/
def ipv4Prefix (cs : List Char) : Option (List Nat × List Char) := do
  let (a, r) ← number 10 3 256 false cs
  let r ← match r with | '.' :: r => some r | _ => none
  let (b, r) ← number 10 3 256 false r
  let r ← match r with | '.' :: r => some r | _ => none
  let (c, r) ← number 10 3 256 false r
  let r ← match r with | '.' :: r => some r | _ => none
  let (d, r) ← number 10 3 256 false r
  pure ([a, b, c, d], r)

/-- Reads colon-separated groups, at most `limit` of them, an IPv4 tail allowed where two
groups remain. Gives the groups, whether a tail was read, and the rest. -/
def groups : Nat → Nat → List Char → List Nat × Bool × List Char
  | 0, _, cs => ([], false, cs)
  | fuel + 1, limit, cs =>
    if limit = 0 then ([], false, cs)
    else
      -- the separator before every group but the first is read by the caller
      let tail := if limit ≥ 2 then ipv4Prefix cs else none
      match tail with
      | some ([a, b, c, d], r) => ([a * 256 + b, c * 256 + d], true, r)
      | _ =>
        match number 16 4 65536 true cs with
        | none => ([], false, cs)
        | some (g, r) =>
          match r with
          | ':' :: r' =>
            -- a colon continues the list only if a group follows it
            let (more, v4, rest) := groups fuel (limit - 1) r'
            if more.isEmpty then ([g], false, r) else (g :: more, v4, rest)
          | _ => ([g], false, r)

/-- Reads an IPv6 address that makes up the whole text. -/
def ipv6 (cs : List Char) : Option (List Nat) :=
  let (head, headV4, r) := groups 9 8 cs
  if head.length = 8 then (if r.isEmpty then some head else none)
  else if headV4 then none
  else
    match r with
    | ':' :: ':' :: r' =>
      let (tail, _, rest) := groups 9 (7 - head.length) r'
      if rest.isEmpty then
        some (head ++ List.replicate (8 - head.length - tail.length) 0 ++ tail)
      else none
    | _ => none

/-- Reads an IP address that makes up the whole text. -/
def IpAddress.parse? (s : String) : Option IpAddress :=
  let cs := s.toList
  match ipv4Prefix cs with
  | some (os, []) => some (.v4 os)
  | some _ => none
  | none => (ipv6 cs).map .v6

/-- Lowercase hex without leading zeros. -/
def hex (n : Nat) : String := String.ofList (Nat.toDigits 16 n)

/-- Colon-separated hex groups. -/
def hexGroups (gs : List Nat) : String := ":".intercalate (gs.map hex)

/-- The start and length of the longest run of zero groups, the first of equal runs. -/
def longestZeroRun (gs : List Nat) : Nat × Nat :=
  let step (acc : (Nat × Nat) × (Nat × Nat) × Nat) (g : Nat) :=
    let (best, cur, i) := acc
    let cur := if g = 0 then (if cur.2 = 0 then (i, 1) else (cur.1, cur.2 + 1)) else (0, 0)
    let best := if cur.2 > best.2 then cur else best
    (best, cur, i + 1)
  (gs.foldl step ((0, 0), (0, 0), 0)).1

/-- The text of an IPv4 address. -/
def ipv4Text (os : List Nat) : String := ".".intercalate (os.map toString)

/-- The text of an address. -/
def IpAddress.text : IpAddress → String
  | .v4 os => ipv4Text os
  | .v6 gs =>
    match gs with
    | [0, 0, 0, 0, 0, 0xffff, a, b] => "::ffff:" ++ ipv4Text [a / 256, a % 256, b / 256, b % 256]
    | _ =>
      let (start, len) := longestZeroRun gs
      if len > 1 then hexGroups (gs.take start) ++ "::" ++ hexGroups (gs.drop (start + len))
      else hexGroups gs

/-- The text of an address with a port; an IPv6 address is bracketed. -/
def IpAddress.socketText (a : IpAddress) (port : Nat) : String :=
  match a with
  | .v4 _ => a.text ++ ":" ++ toString port
  | .v6 _ => "[" ++ a.text ++ "]:" ++ toString port

end AccountRegistry.Net
