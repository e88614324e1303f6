import WikiDump.Text.Quoted
/-!
# Timestamps

A plain scalar that starts with a four-digit year and a `-` may be a timestamp. Four layouts
are tried in turn:

1. `YYYY-M-DTh:m:s` with an optional fraction and a zone, `Z` or `±hh:mm`;
2. the same with a lowercase `t`;
3. `YYYY-M-D h:m:s` with an optional fraction, the date and time parted by one or more spaces;
4. `YYYY-M-D`.

Month, day, hour, minute and second take one or two digits; the fraction is a `.` or `,` and
any number of digits, of which the first nine count. The month must be one to twelve, the day
must exist in that month, the hour is below 24 and minutes and seconds below 60. A zone offset
takes two-digit hours up to 24 and minutes up to 60. The whole text must be used.

A timestamp without a zone, or with `Z`, is in universal time. A zero offset names the local
zone, which is universal time on the machines this runs on; any other offset is a fixed zone
without a name.
-/

namespace WikiDump.Yaml

/-- The zone a timestamp's wall clock is read in. -/
inductive Zone where
  /-- Universal time. -/
  | utc
  /-- The local zone, universal time here, chosen by a zero offset. -/
  | local
  /-- A fixed offset east of universal time in minutes, with no name. -/
  | fixed (minutes : Int)
  deriving Inhabited, Repr, BEq, DecidableEq

def Zone.offset : Zone → Int
  | .fixed minutes => minutes
  | _ => 0

/-- A date and time of day as written, with its zone. -/
structure Timestamp where
  year : Nat
  month : Nat
  day : Nat
  hour : Nat := 0
  minute : Nat := 0
  second : Nat := 0
  nanosecond : Nat := 0
  zone : Zone := .utc
  deriving Inhabited, Repr, BEq, DecidableEq

namespace Timestamp

def isLeap (year : Nat) : Bool := year % 4 = 0 && (year % 100 != 0 || year % 400 = 0)

def daysIn (month year : Nat) : Nat :=
  if month = 2 then (if isLeap year then 29 else 28)
  else if month = 4 ∨ month = 6 ∨ month = 9 ∨ month = 11 then 30
  else 31

def digit? (c : Char) : Option Nat := if '0' ≤ c ∧ c ≤ '9' then some (c.toNat - 48) else none

def number : List Char → Option (Nat × List Char)
  | a :: rest =>
    match digit? a with
    | none => none
    | some x =>
      match rest with
      | b :: more =>
        match digit? b with
        | some y => some (10 * x + y, more)
        | none => some (x, rest)
      | [] => some (x, rest)
  | [] => none

def twoDigits : List Char → Option Nat
  | [a, b] => do
    let x ← digit? a
    let y ← digit? b
    pure (10 * x + y)
  | _ => none

def bounded (bound : Nat) (cs : List Char) : Option (Nat × List Char) := do
  let (n, rest) ← number cs
  if n < bound then pure (n, rest) else none

def literal (c : Char) : List Char → Option (List Char)
  | d :: rest => if c = d then some rest else none
  | [] => none

def spaces : List Char → Option (List Char)
  | [] => some []
  | cs@(c :: _) => if c = ' ' then some (cs.dropWhile (· = ' ')) else none

def nanosOf (digits : List Char) : Nat :=
  let kept := digits.take 9
  let value := kept.foldl (fun acc c => 10 * acc + (c.toNat - 48)) 0
  value * Nat.pow 10 (9 - kept.length)

def fraction (cs : List Char) : Nat × List Char :=
  match cs with
  | p :: d :: rest =>
    if (p = '.' ∨ p = ',') ∧ (digit? d).isSome then
      let digits := (d :: rest).takeWhile fun c => (digit? c).isSome
      (nanosOf digits, (d :: rest).drop digits.length)
    else (0, cs)
  | _ => (0, cs)

def zoneOf (cs : List Char) : Option (Zone × List Char) :=
  match cs with
  | 'Z' :: rest => some (.utc, rest)
  | sign :: h1 :: h2 :: colon :: m1 :: m2 :: rest => do
    if colon ≠ ':' then none
    let hours ← twoDigits [h1, h2]
    let minutes ← twoDigits [m1, m2]
    if hours > 24 ∨ minutes > 60 then none
    let offset : Int := hours * 60 + minutes
    let signed ← if sign = '+' then some offset else if sign = '-' then some (-offset) else none
    pure (if signed = 0 then .local else .fixed signed, rest)
  | _ => none

def clock (cs : List Char) : Option ((Nat × Nat × Nat × Nat) × List Char) := do
  let (hour, cs) ← bounded 24 cs
  let cs ← literal ':' cs
  let (minute, cs) ← bounded 60 cs
  let cs ← literal ':' cs
  let (second, cs) ← bounded 60 cs
  let (nanos, cs) := fraction cs
  pure ((hour, minute, second, nanos), cs)

def date (cs : List Char) : Option ((Nat × Nat × Nat) × List Char) := do
  let year ← (cs.take 4).foldlM (fun acc c => (digit? c).map (10 * acc + ·)) 0
  if cs.length < 4 then none
  let cs ← literal '-' (cs.drop 4)
  let (month, cs) ← number cs
  if month = 0 ∨ month > 12 then none
  let cs ← literal '-' cs
  let (day, cs) ← number cs
  pure ((year, month, day), cs)

def checked (year month day : Nat) (t : Timestamp) : Option Timestamp :=
  if 1 ≤ day ∧ day ≤ daysIn month year then some t else none

def withClock (year month day : Nat) (separator : List Char → Option (List Char))
    (zoned : Bool) (cs : List Char) : Option Timestamp := do
  let cs ← separator cs
  let ((hour, minute, second, nanosecond), cs) ← clock cs
  let (zone, cs) ← if zoned then zoneOf cs else some (Zone.utc, cs)
  if !cs.isEmpty then none
  checked year month day { year, month, day, hour, minute, second, nanosecond, zone }

def parse? (s : String) : Option Timestamp :=
  let cs := s.toList
  let lead := cs.takeWhile fun c => (digit? c).isSome
  if lead.length ≠ 4 ∨ (cs.drop 4).head? ≠ some '-' then none
  else
    match date cs with
    | none => none
    | some ((year, month, day), rest) =>
      (withClock year month day (literal 'T') true rest) <|>
      (withClock year month day (literal 't') true rest) <|>
      (withClock year month day spaces false rest) <|>
      (if rest.isEmpty then checked year month day { year, month, day } else none)

/-! ### Printing -/

/-- A number left-padded with zeros to `width` digits. -/
def padded (width n : Nat) : String :=
  let digits := toString n
  String.ofList (List.replicate (width - digits.length) '0') ++ digits

def monthNames : List String :=
  ["January", "February", "March", "April", "May", "June", "July", "August", "September",
    "October", "November", "December"]

def offsetText (minutes : Int) : String :=
  let sign := if minutes < 0 then "-" else "+"
  let m := minutes.natAbs
  sign ++ padded 2 (m / 60) ++ padded 2 (m % 60)

def fractionText (nanos : Nat) : String :=
  if nanos = 0 then ""
  else
    let digits := (padded 9 nanos).toList.reverse.dropWhile (· = '0') |>.reverse
    "." ++ String.ofList digits

/-- The usual text of a timestamp: `2006-01-02 15:04:05.999999999 -0700 MST`, the zone named
by its abbreviation, or by its offset when it has no name. -/
def text (t : Timestamp) : String :=
  let offset := offsetText t.zone.offset
  let name := match t.zone with
    | .fixed _ => offset
    | _ => "UTC"
  padded 4 t.year ++ "-" ++ padded 2 t.month ++ "-" ++ padded 2 t.day ++ " " ++
    padded 2 t.hour ++ ":" ++ padded 2 t.minute ++ ":" ++ padded 2 t.second ++
    fractionText t.nanosecond ++ " " ++ offset ++ " " ++ name

/-- A timestamp as the expression that builds it: `time.Date(2006, time.January, 2, 15, 4, 5,
0, time.UTC)`. -/
def expression (t : Timestamp) : String :=
  let zone := match t.zone with
    | .utc => "time.UTC"
    | .local => "time.Local"
    | .fixed _ => "time.Location(" ++ Quoted.ofString "" ++ ")"
  "time.Date(" ++ toString t.year ++ ", time." ++ monthNames.getD (t.month - 1) "" ++ ", " ++
    toString t.day ++ ", " ++ toString t.hour ++ ", " ++ toString t.minute ++ ", " ++
    toString t.second ++ ", " ++ toString t.nanosecond ++ ", " ++ zone ++ ")"

end Timestamp

end WikiDump.Yaml

