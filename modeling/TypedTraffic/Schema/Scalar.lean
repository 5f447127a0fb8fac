import TypedTraffic.Number.Binary64
import TypedTraffic.Schema.Check
import TypedTraffic.Text.Numeral
import TypedTraffic.Text.Split

/-!
# Values that stand for whole numbers and truth values

A whole number may be given as a numeral, as a number without fractional
part or as a truth value; a truth value as a word, as 0 or 1.
-/

namespace TypedTraffic.Schema

open Text

/-- White space at the ends of a numeral. -/
def isPadding (c : Char) : Bool := isBlank c && !(28 ≤ c.toNat && c.toNat ≤ 31)

/-- Digits with single underscores between them, as one run of digits. -/
def groupedDigits? (cs : List Char) : Option (List Char) :=
  let groups := split '_' cs
  if groups.all fun group => !group.isEmpty && group.all Char.isDigit then some groups.flatten
  else none

/-- The digits of an unsigned numeral, which may end in a point and
zeros. -/
def numeralDigits? (cs : List Char) : Option (List Char) :=
  match cut '.' cs with
  | (whole, none) => groupedDigits? whole
  | (whole, some zeros) => if zeros.all (· == '0') then groupedDigits? whole else none

/-- The most digits a numeral may have. -/
def numeralLimit : Nat := 4300

/-- **The whole number of a numeral.** -/
def wholeOfText (s : String) : Checked Int :=
  let trimmed := dropEndWhile isPadding (s.toList.dropWhile isPadding)
  let (negative, unsigned) : Bool × List Char :=
    match trimmed with
    | '-' :: rest => (true, rest)
    | '+' :: rest => (false, rest)
    | rest => (false, rest)
  match numeralDigits? unsigned with
  | none => Checked.refuse .wholeNumeral
  | some digits =>
    if numeralLimit < digits.length then Checked.refuse .wholeSize
    else
      let n : Int := numeral 10 digits
      .ok (if negative then -n else n)

/-- **The whole number of a binary number.** -/
def wholeOfBinary (x : Binary64) : Checked Int :=
  match x with
  | .infinite _ => Checked.refuse .notFinite
  | .undefined => Checked.refuse .notFinite
  | .finite _ _ _ =>
    match x.toInt? with
    | none => Checked.refuse .fractional
    | some n => if n.natAbs < Nat.pow 2 63 then .ok n else Checked.refuse .wholeSize

/-- The words that stand for a truth value, in lower case. -/
def truthWords : List (String × Bool) :=
  [("0", false), ("off", false), ("f", false), ("false", false), ("n", false), ("no", false),
   ("1", true), ("on", true), ("t", true), ("true", true), ("y", true), ("yes", true)]

/-- **The truth value of a word**, in any case. -/
def truthOfText (s : String) : Checked Bool :=
  match truthWords.lookup (String.ofList (s.toList.map Char.toLower)) with
  | some b => .ok b
  | none => Checked.refuse .truthWord

/-- **The truth value of a whole number.** Numbers of more than 64 bits
are of no kind that could stand for one. -/
def truthOfWhole (n : Int) : Checked Bool :=
  if n = 0 then .ok false
  else if n = 1 then .ok true
  else if -Nat.pow 2 63 ≤ n ∧ n < Nat.pow 2 63 then Checked.refuse .truthWord
  else Checked.refuse .notTruth

/-- **The truth value of a binary number.** -/
def truthOfBinary (x : Binary64) : Checked Bool :=
  match x.toInt? with
  | none => Checked.refuse .notTruth
  | some n =>
    if n.natAbs < Nat.pow 2 63 then truthOfWhole n else Checked.refuse .notTruth

end TypedTraffic.Schema
