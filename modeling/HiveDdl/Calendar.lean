/-!
# Dates and times of the proleptic Gregorian calendar

A date is a year from 1 to 9999, a month and a day of that month; a time of day is an hour, a
minute, a second and a microsecond. A date and time may carry a fixed offset from UTC, of less
than a day either way.

Building one checks its fields in order (year, month, day, hour, minute, second, microsecond)
and names the first that is out of range. Two dates and times with offsets are the same when
they name the same instant; one with an offset and one without are never the same.

* `Date.make`, `DateTime.make`, `offsetMinutes`: checked construction.
* `Date.text`, `DateTime.text`: `2001-12-14`, `2001-12-14 21:59:43.100000-05:00`.
-/

namespace HiveDdl.Calendar

/-- A calendar date. -/
structure Date where
  year : Nat
  month : Nat
  day : Nat
deriving Repr, DecidableEq

/-- A date, a time of day, and the offset from UTC in minutes if there is one. -/
structure DateTime where
  date : Date
  hour : Nat
  minute : Nat
  second : Nat
  microsecond : Nat
  offset : Option Int
deriving Repr, DecidableEq

def isLeapYear (y : Nat) : Bool :=
  y % 4 = 0 && (y % 100 ≠ 0 || y % 400 = 0)

def daysInMonth (y m : Nat) : Nat :=
  if m = 2 then (if isLeapYear y then 29 else 28)
  else if m = 4 ∨ m = 6 ∨ m = 9 ∨ m = 11 then 30
  else 31

/-- A date, or the message naming its first field out of range. -/
def Date.make (y m d : Nat) : Except String Date :=
  if y < 1 ∨ y > 9999 then .error ("year " ++ toString y ++ " is out of range")
  else if m < 1 ∨ m > 12 then .error "month must be in 1..12"
  else if d < 1 ∨ d > daysInMonth y m then .error "day is out of range for month"
  else .ok ⟨y, m, d⟩

/-- A date and time, or the message naming its first field out of range. -/
def DateTime.make (y m d hour minute second micro : Nat) (offset : Option Int) :
    Except String DateTime := do
  let date ← Date.make y m d
  if hour > 23 then throw "hour must be in 0..23"
  if minute > 59 then throw "minute must be in 0..59"
  if second > 59 then throw "second must be in 0..59"
  if micro > 999999 then throw "microsecond must be in 0..999999"
  pure ⟨date, hour, minute, second, micro, offset⟩

/-- A signed span of seconds as a count of days and the seconds left over, as messages show
it: `datetime.timedelta(days=-2, seconds=82800)`. -/
def spanText (seconds : Int) : String :=
  let days := seconds / 86400
  let rest := seconds % 86400
  let fields := (if days ≠ 0 then ["days=" ++ toString days] else []) ++
    (if rest ≠ 0 then ["seconds=" ++ toString rest] else [])
  "datetime.timedelta(" ++ (if fields.isEmpty then "0" else ", ".intercalate fields) ++ ")"

/-- An offset from UTC of `hours` and `minutes`, east of UTC unless `negative`, or the message
refusing an offset of a day or more. -/
def offsetMinutes (negative : Bool) (hours minutes : Nat) : Except String Int :=
  let total : Int := (if negative then -1 else 1) * Int.ofNat (hours * 60 + minutes)
  if total.natAbs ≥ 1440 then
    .error ("offset must be a timedelta strictly between -timedelta(hours=24) and " ++
      "timedelta(hours=24), not " ++ spanText (total * 60) ++ ".")
  else .ok total

def padded (width n : Nat) : String :=
  let s := toString n
  String.ofList (List.replicate (width - s.length) '0') ++ s

/-- A date as text: year, month and day joined by dashes. -/
def Date.text (d : Date) : String :=
  padded 4 d.year ++ "-" ++ padded 2 d.month ++ "-" ++ padded 2 d.day

def offsetText (minutes : Int) : String :=
  (if minutes < 0 then "-" else "+") ++ padded 2 (minutes.natAbs / 60) ++ ":" ++
    padded 2 (minutes.natAbs % 60)

/-- A date and time as text: the date, a space, the time with microseconds when there are any,
and the offset when there is one. -/
def DateTime.text (t : DateTime) : String :=
  t.date.text ++ " " ++ padded 2 t.hour ++ ":" ++ padded 2 t.minute ++ ":" ++ padded 2 t.second ++
    (if t.microsecond = 0 then "" else "." ++ padded 6 t.microsecond) ++
    (match t.offset with
      | some m => offsetText m
      | none => "")

def Date.ordinal (d : Date) : Nat :=
  let y := d.year - 1
  let beforeYear := y * 365 + y / 4 - y / 100 + y / 400
  let beforeMonth := ((List.range (d.month - 1)).map fun i => daysInMonth d.year (i + 1)).foldl (· + ·) 0
  beforeYear + beforeMonth + d.day - 1

def DateTime.localMicros (t : DateTime) : Int :=
  let minutes : Int := Int.ofNat ((t.date.ordinal * 24 + t.hour) * 60 + t.minute)
  (minutes * 60 + Int.ofNat t.second) * 1000000 + Int.ofNat t.microsecond

/-- Whether two dates and times are the same: the same instant when both have offsets, the same
fields when neither has, never when only one has. -/
def DateTime.same (a b : DateTime) : Bool :=
  match a.offset, b.offset with
  | some x, some y => a.localMicros - x * 60000000 == b.localMicros - y * 60000000
  | none, none => a.date == b.date && a.hour == b.hour && a.minute == b.minute &&
      a.second == b.second && a.microsecond == b.microsecond
  | _, _ => false

example : (Date.make 2024 2 29).toOption = some ⟨2024, 2, 29⟩ := by decide
example : (Date.make 2023 2 29 |>.toOption) = none := by decide

end HiveDdl.Calendar
