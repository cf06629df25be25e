import AccountRegistry.Net.Address
/-!
# Loose IPv4 forms

Two readers of IPv4 addresses looser than the dotted-decimal form of `IpAddress.parse?`. Both
take one to four numbers separated by dots; every number but the last is one byte, and the
last fills the bytes the others leave, so `127.1` is 127.0.0.1 and `2130706433` is too. A
number is decimal, octal after a leading `0`, or hex after `0x` or `0X`.

- `urlIpv4?` reads the host of a URL with a special scheme. A hex number may have no digits
  (it is zero), and one empty part after the last dot is dropped. `endsInNumber` tells which
  hosts must be read this way rather than as domain names.
- `resolverIpv4?` reads a host name the way the system resolver does before it looks the name
  up: every number starts with a digit, `0x` needs a hex digit after it, and no part is empty.
-/

set_option autoImplicit false

namespace AccountRegistry.Net

/-- The value of a digit text in a radix, if every character is a digit of it. -/
def radixValue? (radix : Nat) (cs : List Char) : Option Nat :=
  cs.foldlM (fun acc c => (digitValue radix c).map fun d => acc * radix + d) 0

/-- The parts of a text between dots, empty ones included. -/
def dotParts (cs : List Char) : List (List Char) :=
  ((String.ofList cs).splitOn ".").map String.toList

/-- Joins numbers read as an IPv4 address: at most four, every one but the last below 256,
the last below the bytes left to it. -/
def joinNumbers (ns : List Nat) : Option (List Nat) :=
  match ns.reverse with
  | [] => none
  | last :: front =>
    let front := front.reverse
    if ns.length > 4 || front.any (· > 255) || last ≥ Nat.pow 256 (5 - ns.length) then none
    else
      let value := (front.zip (List.range front.length)).foldl
        (fun acc (n, i) => acc + n * Nat.pow 256 (3 - i)) last
      some [value / Nat.pow 2 24 % 256, value / Nat.pow 2 16 % 256, value / Nat.pow 2 8 % 256, value % 256]

/-! ## URL hosts -/

/-- One number of a URL host: `0x` or `0X` then hex digits (none means zero), or `0` then
octal digits, or decimal digits. -/
def urlNumber? (cs : List Char) : Option Nat :=
  match cs with
  | [] => none
  | '0' :: x :: rest => if x == 'x' || x == 'X' then radixValue? 16 rest else radixValue? 8 (x :: rest)
  | _ => radixValue? 10 cs

/-- Whether a URL host names an IPv4 address: its last part (before one final dot) is all
digits or reads as a number. -/
def endsInNumber (cs : List Char) : Bool :=
  let parts := dotParts cs
  let parts := if parts.getLast? == some [] then parts.dropLast else parts
  match parts.getLast? with
  | none | some [] => false
  | some last => last.all Char.isDigit || (urlNumber? last).isSome

/-- Reads the host of a URL with a special scheme as an IPv4 address. -/
def urlIpv4? (cs : List Char) : Option (List Nat) := do
  let parts := dotParts cs
  let parts := if parts.getLast? == some [] && parts.length > 1 then parts.dropLast else parts
  joinNumbers (← parts.mapM urlNumber?)

/-! ## Resolver names -/

/-- One number of a name given to the resolver: it starts with a digit; `0x` or `0X` then at
least one hex digit, or `0` then octal digits, or decimal digits. -/
def resolverNumber? (cs : List Char) : Option Nat :=
  match cs with
  | '0' :: x :: rest =>
    if x == 'x' || x == 'X' then (if rest.isEmpty then none else radixValue? 16 rest)
    else radixValue? 8 (x :: rest)
  | c :: _ => if c.isDigit then radixValue? 10 cs else none
  | [] => none

/-- Reads a host name as the resolver's numeric IPv4 form, the whole name. -/
def resolverIpv4? (s : String) : Option (List Nat) := do
  joinNumbers (← (dotParts s.toList).mapM resolverNumber?)

end AccountRegistry.Net
