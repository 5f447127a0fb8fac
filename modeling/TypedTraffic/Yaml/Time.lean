import TypedTraffic.Moment
import TypedTraffic.Text.Numeral

/-!
# Days and points in time of YAML

A day is written year, month and day with hyphens between them; behind a
`T` or blanks follows the time of day, perhaps with a fraction of a
second and with the distance from universal time.
-/

namespace TypedTraffic.Yaml

open Text

/-- The parts of a point in time as they are written. -/
structure WrittenTime where
  /-- The year. -/
  year : Nat
  /-- The month. -/
  month : Nat
  /-- The day. -/
  day : Nat
  /-- Whether month and day have two digits each. -/
  padded : Bool
  /-- Hour, minute, second and millionths. -/
  clock : Option (Nat × Nat × Nat × Nat)
  /-- The distance from universal time in minutes. -/
  offset : Option Int

/-- Between `least` and `most` digits, as many as there are. -/
def takeDigits (least most : Nat) (cs : List Char) : Option (List Char × List Char) :=
  let digits := (cs.take most).takeWhile Char.isDigit
  if least ≤ digits.length then some (digits, cs.drop digits.length) else none

/-- The text behind a given character. -/
def expect (c : Char) : List Char → Option (List Char)
  | d :: rest => if c = d then some rest else none
  | [] => none

/-- The distance from universal time behind the blanks here. -/
def takeOffset (cs : List Char) : Option (Option Int) :=
  match cs.dropWhile fun c => c == ' ' || c == '\t' with
  | [] => if cs.isEmpty then some none else none
  | ['Z'] => some (some 0)
  | sign :: rest => do
    let (hours, rest) ← takeDigits 1 2 rest
    let minutes ←
      match rest with
      | [] => some []
      | rest => do
        let (minutes, rest) ← takeDigits 2 2 (← expect ':' rest)
        if rest.isEmpty then some minutes else none
    let distance : Int := numeral 10 hours * 60 + numeral 10 minutes
    if sign = '+' then some (some distance)
    else if sign = '-' then some (some (-distance))
    else none

/-- The millionths that the digits of a fraction stand for. -/
def millionths (digits : List Char) : Nat :=
  numeral 10 ((digits ++ List.replicate 6 '0').take 6)

/-- The time of day, from the character behind the day on. -/
def takeClock (cs : List Char) : Option ((Nat × Nat × Nat × Nat) × Option Int) := do
  let rest ←
    match cs with
    | 'T' :: rest => some rest
    | 't' :: rest => some rest
    | ' ' :: rest => some (rest.dropWhile fun c => c == ' ' || c == '\t')
    | '\t' :: rest => some (rest.dropWhile fun c => c == ' ' || c == '\t')
    | _ => none
  let (hour, rest) ← takeDigits 1 2 rest
  let (minute, rest) ← takeDigits 2 2 (← expect ':' rest)
  let (second, rest) ← takeDigits 2 2 (← expect ':' rest)
  let (fraction, rest) :=
    match rest with
    | '.' :: rest => rest.span Char.isDigit
    | rest => ([], rest)
  let offset ← takeOffset rest
  return ((numeral 10 hour, numeral 10 minute, numeral 10 second, millionths fraction), offset)

/-- **The parts of a point in time**, if a text is written as one. -/
def readTime? (cs : List Char) : Option WrittenTime := do
  let (year, rest) ← takeDigits 4 4 cs
  let (month, rest) ← takeDigits 1 2 (← expect '-' rest)
  let (day, rest) ← takeDigits 1 2 (← expect '-' rest)
  let padded := month.length == 2 && day.length == 2
  let date := (numeral 10 year, numeral 10 month, numeral 10 day)
  if rest.isEmpty then return ⟨date.1, date.2.1, date.2.2, padded, none, none⟩
  else
    let (clock, offset) ← takeClock rest
    return ⟨date.1, date.2.1, date.2.2, padded, some clock, offset⟩

/-- **Whether a plain scalar is a day or a point in time.** A day alone
has two digits for month and day. -/
def isTime (cs : List Char) : Bool :=
  (readTime? cs).any fun time => time.clock.isSome || time.padded

/-- Why a written time is none. -/
inductive TimeFault where
  /-- One of its numbers is out of range. -/
  | moment (error : Moment.Error)
  /-- The distance from universal time is a day or more. -/
  | offset (minutes : Int)
  deriving DecidableEq

/-- The text of a fault. -/
def TimeFault.message : TimeFault → String
  | .moment e => e.message
  | .offset minutes =>
    "offset must be a timedelta strictly between -timedelta(hours=24) and "
      ++ "timedelta(hours=24), not " ++ Moment.distanceText minutes ++ "."

/-- **The point in time that is written**; a day is its first moment. -/
def WrittenTime.moment (time : WrittenTime) : Except TimeFault Moment :=
  let (hour, minute, second, micro) := time.clock.getD (0, 0, 0, 0)
  match time.offset.filter fun minutes => 1440 ≤ minutes.natAbs with
  | some minutes => .error (.offset minutes)
  | none =>
    match Moment.of time.year time.month time.day hour minute second micro time.offset with
    | .ok m => .ok m
    | .error e => .error (.moment e)

end TypedTraffic.Yaml
