/-!
# Calendar instants

Dump timestamps name a second of the proleptic Gregorian calendar in UTC. They are written
compactly as `YYYYMMDDhhmmss` or as `YYYY-MM-DD hh:mm:ss`, and shown in RFC 3339 form
`YYYY-MM-DDThh:mm:ssZ`.

Reading checks each field as it comes: a month outside 1 to 12, an hour above 23, a minute or a
second above 59 is refused at once; the day is checked last, against the length of its month
(February has 29 days in years divisible by 4 but not by 100, or by 400).
-/

namespace WikiDump

/-- A second of the calendar, in UTC. -/
structure Instant where
  year : Nat
  month : Nat
  day : Nat
  hour : Nat
  minute : Nat
  second : Nat
  deriving Repr, BEq, DecidableEq, Inhabited

namespace Instant

def isLeapYear (y : Nat) : Bool := y % 4 = 0 && (y % 100 ≠ 0 || y % 400 = 0)

def daysIn (month year : Nat) : Nat :=
  if month = 2 then (if isLeapYear year then 29 else 28)
  else if month = 4 ∨ month = 6 ∨ month = 9 ∨ month = 11 then 30
  else 31

def ofUnixSeconds (seconds : Nat) : Instant :=
  let days := seconds / 86400
  let rest := seconds % 86400
  let z := days + 719468
  let era := z / 146097
  let dayOfEra := z - era * 146097
  let yearOfEra := (dayOfEra - dayOfEra / 1460 + dayOfEra / 36524 - dayOfEra / 146096) / 365
  let dayOfYear := dayOfEra - (365 * yearOfEra + yearOfEra / 4 - yearOfEra / 100)
  let shifted := (5 * dayOfYear + 2) / 153
  let day := dayOfYear - (153 * shifted + 2) / 5 + 1
  let month := if shifted < 10 then shifted + 3 else shifted - 9
  let year := yearOfEra + era * 400 + (if month ≤ 2 then 1 else 0)
  ⟨year, month, day, rest / 3600, rest % 3600 / 60, rest % 60⟩

/-- A number written with at least `width` digits, zeros in front. -/
def padded (width n : Nat) : String :=
  let s := toString n
  String.ofList (List.replicate (width - s.length) '0') ++ s

def compact (t : Instant) : String :=
  padded 4 t.year ++ padded 2 t.month ++ padded 2 t.day ++ padded 2 t.hour ++
    padded 2 t.minute ++ padded 2 t.second

def rfc3339 (t : Instant) : String :=
  padded 4 t.year ++ "-" ++ padded 2 t.month ++ "-" ++ padded 2 t.day ++ "T" ++
    padded 2 t.hour ++ ":" ++ padded 2 t.minute ++ ":" ++ padded 2 t.second ++ "Z"

def digitsValue (ds : List Char) : Nat :=
  ds.foldl (fun acc c => acc * 10 + (c.toNat - '0'.toNat)) 0

/-- Builds an instant from its six fields, checking them in the order they are written; the
error names the field that is out of range. -/
def ofFields (year month day hour minute second : Nat) : Except String Instant :=
  if month < 1 ∨ month > 12 then .error "month"
  else if hour > 23 then .error "hour"
  else if minute > 59 then .error "minute"
  else if second > 59 then .error "second"
  else if day < 1 ∨ day > daysIn month year then .error "day"
  else .ok ⟨year, month, day, hour, minute, second⟩

/-- Reads the fields of a text already known to have the compact shape (14 digits) or the
spaced shape; the error is the message for a field out of range. -/
def ofDigits (text : String) (spaced : Bool) : Except String Instant :=
  let cs := text.toList
  let field := fun (at_ len : Nat) => digitsValue ((cs.drop at_).take len)
  let (y, mo, d, h, mi, s) :=
    if spaced then (field 0 4, field 5 2, field 8 2, field 11 2, field 14 2, field 17 2)
    else (field 0 4, field 4 2, field 6 2, field 8 2, field 10 2, field 12 2)
  match ofFields y mo d h mi s with
  | .ok t => .ok t
  | .error what => .error ("parsing time \"" ++ text ++ "\": " ++ what ++ " out of range")

end Instant

end WikiDump

