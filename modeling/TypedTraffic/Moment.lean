import TypedTraffic.Text.Class

/-!
# Points in time

A point in time is a date and a time of day, with its distance from
universal time if that is known. It is written year first, with a `T`
between date and time, millionths only if there are any, and the
distance as a signed time of day.
-/

namespace TypedTraffic

/-- **A point in time.** -/
structure Moment where
  /-- The year. -/
  year : Nat
  /-- The month, from 1 on. -/
  month : Nat
  /-- The day, from 1 on. -/
  day : Nat
  /-- The hour. -/
  hour : Nat
  /-- The minute. -/
  minute : Nat
  /-- The second. -/
  second : Nat
  /-- The millionths of a second. -/
  micro : Nat
  /-- The distance from universal time in minutes. -/
  offset : Option Int
  deriving DecidableEq

namespace Moment

/-- Whether a year has a 29th of February. -/
def isLeap (year : Nat) : Bool := year % 4 == 0 && (year % 100 != 0 || year % 400 == 0)

/-- The number of days of a month. -/
def daysIn (year month : Nat) : Nat :=
  if month = 2 then if isLeap year then 29 else 28
  else if month = 4 ∨ month = 6 ∨ month = 9 ∨ month = 11 then 30
  else 31

/-- Why numbers are no point in time. -/
inductive Error where
  /-- Years run from 1 to 9999. -/
  | year (value : Int)
  /-- Months run from 1 to 12. -/
  | month
  /-- The month has fewer days. -/
  | day
  /-- Hours run from 0 to 23. -/
  | hour
  /-- Minutes run from 0 to 59. -/
  | minute
  /-- Seconds run from 0 to 59. -/
  | second
  /-- Millionths run from 0 to 999999. -/
  | micro
  deriving DecidableEq

/-- The text of an error. -/
def Error.message : Error → String
  | .year value => "year " ++ toString value ++ " is out of range"
  | .month => "month must be in 1..12"
  | .day => "day is out of range for month"
  | .hour => "hour must be in 0..23"
  | .minute => "minute must be in 0..59"
  | .second => "second must be in 0..59"
  | .micro => "microsecond must be in 0..999999"

/-- Whether a number lies in a range. -/
def within (low high n : Int) : Bool := low ≤ n && n ≤ high

/-- The first fault of the numbers of a point in time. -/
def fault? (year month day hour minute second micro : Int) : Option Error :=
  if !within 1 9999 year then some (.year year)
  else if !within 1 12 month then some .month
  else if !within 1 (daysIn year.toNat month.toNat) day then some .day
  else if !within 0 23 hour then some .hour
  else if !within 0 59 minute then some .minute
  else if !within 0 59 second then some .second
  else if !within 0 999999 micro then some .micro
  else none

/-- **The point in time that some numbers give.** -/
def of (year month day hour minute second micro : Int) (offset : Option Int) :
    Except Error Moment :=
  match fault? year month day hour minute second micro with
  | some e => .error e
  | none =>
    .ok ⟨year.toNat, month.toNat, day.toNat, hour.toNat, minute.toNat, second.toNat,
      micro.toNat, offset⟩

/-- A number with at least the given count of digits. -/
def padded (width n : Nat) : String := String.ofList (Text.decimalPadded width n)

/-- The distance from universal time as a signed time of day. -/
def offsetText (offset : Int) : String :=
  (if offset < 0 then "-" else "+") ++ padded 2 (offset.natAbs / 60) ++ ":"
    ++ padded 2 (offset.natAbs % 60)

/-- **The text of a point in time.** -/
def text (m : Moment) : String :=
  padded 4 m.year ++ "-" ++ padded 2 m.month ++ "-" ++ padded 2 m.day ++ "T"
    ++ padded 2 m.hour ++ ":" ++ padded 2 m.minute ++ ":" ++ padded 2 m.second
    ++ (if m.micro = 0 then "" else "." ++ padded 6 m.micro)
    ++ (m.offset.map offsetText).getD ""

/-- The date of a day, counted from the first of March of the year 0.
Years begin in March here, so that the day that some years have more is
the last one of the year; months then follow each other every 153 days
by five. -/
def dateOfDay (day : Nat) : Nat × Nat × Nat :=
  let era := day / 146097
  let inEra := day % 146097
  let years := (inEra - inEra / 1460 + inEra / 36524 - inEra / 146096) / 365
  let inYear := inEra - (365 * years + years / 4 - years / 100)
  let months := (5 * inYear + 2) / 153
  let month := if months < 10 then months + 3 else months - 9
  let year := era * 400 + years + (if month ≤ 2 then 1 else 0)
  (year, month, inYear - (153 * months + 2) / 5 + 1)

/-- The days from the first of March of the year 0 to the first of
January 1970. -/
def epochDay : Nat := 719468

/-- **The point in universal time** so many millionths of a second after
the beginning of the year 1970. -/
def ofMicroseconds (n : Nat) : Moment :=
  let seconds := n / 1000000
  let (year, month, day) := dateOfDay (seconds / 86400 + epochDay)
  ⟨year, month, day, seconds / 3600 % 24, seconds / 60 % 60, seconds % 60, n % 1000000, some 0⟩

/-- A distance in minutes as days and seconds, the seconds not negative,
with parts that are zero left out. -/
def distanceText (minutes : Int) : String :=
  let days := minutes.fdiv 1440
  let seconds := minutes.fmod 1440 * 60
  let parts :=
    (if days = 0 then [] else ["days=" ++ toString days])
      ++ (if seconds = 0 then [] else ["seconds=" ++ toString seconds])
  "datetime.timedelta(" ++ (if parts.isEmpty then "0" else ", ".intercalate parts) ++ ")"

end Moment

end TypedTraffic
