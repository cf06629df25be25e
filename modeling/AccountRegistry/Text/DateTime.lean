/-!
# RFC 3339 date-times

Checking a date-time such as `1985-04-12T23:20:50.52Z` the way the directory client checks a
timestamp given as a string.

The text is read byte by byte: a four-digit year, `-`, a two-digit month (1 to 12), `-`, a
two-digit day (1 to 31), `T` in either case, hour (0 to 23), `:`, minute (0 to 59), `:`,
second (0 to 60), an optional fraction of a `.` and at least one digit, then `Z` in either
case or an offset of a sign, an hour (0 to 23), `:` and a minute (0 to 59), and nothing
after. A text longer than ten bytes must have its `T` at byte ten before anything else is
read. The day must exist in its month, and a second of 60 stands only for the last second
of a month in UTC.

The first fault found gives the error: a separator other than `T`, a literal byte that is
not the one expected, a component that cannot be read, trailing bytes, or a value out of its
range once the whole text is read.
-/

set_option autoImplicit false

namespace AccountRegistry.Text

/-- Why a text is not an RFC 3339 date-time. -/
inductive DateTimeFault where
  | separator
  | literal
  | component (name : String)
  | trailing
  | range (name : String) (least most : Nat)
  deriving DecidableEq, Repr

/-- What a date-time fault says about the text. -/
def DateTimeFault.detail : DateTimeFault → String
  | .separator => "RFC-3339 only allows `T` as a separator for date-time values"
  | .literal => "invalid RFC-3339 date-time: a character literal was not valid"
  | .component name => "invalid RFC-3339 date-time: the '" ++ name ++ "' component could not be parsed"
  | .trailing => "invalid RFC-3339 date-time: unexpected trailing characters; the end of input was expected"
  | .range name least most =>
    "invalid RFC-3339 date-time: " ++ name ++ " must be in the range " ++ toString least ++ "..=" ++
      toString most ++ ", given values of other parameters"

/-- The text of a date-time fault. -/
def DateTimeFault.message (f : DateTimeFault) : String := "invalid date-time: " ++ f.detail

/-- Whether a byte is an ASCII digit. -/
def isDigitByte (b : UInt8) : Bool := 48 ≤ b && b ≤ 57

/-- Reads exactly `n` digits at the front, if they are there, with the rest. -/
def digitsN (n : Nat) (bs : List UInt8) : Option (Nat × List UInt8) :=
  let ds := bs.take n
  if ds.length == n && ds.all isDigitByte then
    some (ds.foldl (fun acc b => acc * 10 + (b.toNat - 48)) 0, bs.drop n)
  else none

/-- Reads a component of `n` digits within `least ..= most`. -/
def component (name : String) (n least most : Nat) (bs : List UInt8) : Except DateTimeFault (Nat × List UInt8) :=
  match digitsN n bs with
  | some (v, rest) => if least ≤ v && v ≤ most then .ok (v, rest) else .error (.component name)
  | none => .error (.component name)

/-- Reads one literal byte, either of two cases. -/
def literalByte (a b : UInt8) (bs : List UInt8) : Except DateTimeFault (List UInt8) :=
  match bs with
  | c :: rest => if c == a || c == b then .ok rest else .error .literal
  | [] => .error .literal

/-- Whether a year is a leap year of the Gregorian calendar. -/
def isLeapYear (y : Nat) : Bool := y % 4 == 0 && (y % 100 != 0 || y % 400 == 0)

/-- The number of days of a month. -/
def daysInMonth (y m : Nat) : Nat :=
  if m == 2 then (if isLeapYear y then 29 else 28)
  else if m == 4 || m == 6 || m == 9 || m == 11 then 30
  else 31

/-- The fields of a read date-time, with its offset in minutes east of UTC. -/
structure DateTimeFields where
  year : Nat
  month : Nat
  day : Nat
  hour : Nat
  minute : Nat
  offsetMinutes : Int

/-- Whether a date-time at second 60 is the last second of a month in UTC: its minute of
the day, moved to UTC, is 23:59 on the last day of a month. -/
def DateTimeFields.isLeapSecond (f : DateTimeFields) : Bool :=
  let utc : Int := f.hour * 60 + f.minute - f.offsetMinutes
  -- the UTC minute of the day, and whether it falls on the day before or after
  let (dayShift, minuteOfDay) : Int × Int :=
    if utc < 0 then (-1, utc + 1440) else if utc ≥ 1440 then (1, utc - 1440) else (0, utc)
  let lastDay := daysInMonth f.year f.month
  let isLast :=
    if dayShift == 0 then f.day == lastDay
    else if dayShift == 1 then f.day + 1 == lastDay
    else f.day == 1
  minuteOfDay == 1439 && isLast

/-- Checks an RFC 3339 date-time. -/
def checkDateTime (s : String) : Except DateTimeFault Unit := do
  let bs := s.toUTF8.toList
  if bs.length > 10 && bs[10]? != some 84 && bs[10]? != some 116 then throw .separator
  let (year, bs) ← component "year" 4 0 9999 bs
  let bs ← literalByte 45 45 bs
  let (month, bs) ← component "month" 2 1 12 bs
  let bs ← literalByte 45 45 bs
  let (day, bs) ← component "day" 2 1 31 bs
  let bs ← literalByte 84 116 bs
  let (hour, bs) ← component "hour" 2 0 23 bs
  let bs ← literalByte 58 58 bs
  let (minute, bs) ← component "minute" 2 0 59 bs
  let bs ← literalByte 58 58 bs
  let (second, bs) ← component "second" 2 0 60 bs
  let bs ← match bs with
    | 46 :: rest =>
      match rest with
      | d :: more => if isDigitByte d then pure (more.dropWhile isDigitByte) else throw (.component "subsecond")
      | [] => throw (.component "subsecond")
    | _ => pure bs
  let (offset, bs) ← match bs with
    | 90 :: rest | 122 :: rest => pure ((0 : Int), rest)
    | c :: rest =>
      if c == 43 || c == 45 then do
        let (oh, rest) ← component "offset hour" 2 0 23 rest
        let rest ← literalByte 58 58 rest
        let (om, rest) ← component "offset minute" 2 0 59 rest
        let total : Int := oh * 60 + om
        pure (if c == 45 then -total else total, rest)
      else throw (.component "offset hour")
    | [] => throw (.component "offset hour")
  if !bs.isEmpty then throw .trailing
  let last := daysInMonth year month
  if day > last then throw (.range "day" 1 last)
  let fields : DateTimeFields := ⟨year, month, day, hour, minute, offset⟩
  if second == 60 && !fields.isLeapSecond then throw (.range "second" 0 59)

end AccountRegistry.Text
