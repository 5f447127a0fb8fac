import TypedTraffic.Number.Binary64

/-!
# The shortest decimal of a binary number

A binary number stands for all reals that are rounded to it. It is
written with the fewest digits that give one of these reals
(`readsBack`), and of the numbers with so few digits with the nearest
one. A number is written out if its point stands among its digits or
close to them, otherwise with an exponent.
-/

namespace TypedTraffic.Binary64

/-- Whether the neighbour below is half as far away as the one above. -/
def isNarrowBelow (m : Nat) (e : Int) : Bool := m == Nat.pow 2 52 && -1074 < e

/-- `a · 10 ^ i` compared with `n · 2 ^ j`. -/
def compareScaled (a : Nat) (i : Int) (n : Nat) (j : Int) : Ordering :=
  compare (a * Nat.pow 10 i.toNat * Nat.pow 2 (-j).toNat)
    (n * Nat.pow 2 j.toNat * Nat.pow 10 (-i).toNat)

/-- **Whether a decimal is rounded to `m · 2 ^ e`.** The halfway points
to the neighbours are if `m` is even. -/
def readsBack (m : Nat) (e : Int) (digits : Nat) (scale : Int) : Bool :=
  let low := if isNarrowBelow m e then 4 * m - 1 else 4 * m - 2
  let atLow := compareScaled digits scale low (e - 2)
  let atHigh := compareScaled digits scale (4 * m + 2) (e - 2)
  let even := m % 2 == 0
  (atLow == .gt || (even && atLow == .eq)) && (atHigh == .lt || (even && atHigh == .eq))

/-- The multiple of `10 ^ scale` at or below `m · 2 ^ e`, counted in
steps. -/
def floorAt (m : Nat) (e scale : Int) : Nat :=
  (m * Nat.pow 2 e.toNat * Nat.pow 10 (-scale).toNat)
    / (Nat.pow 10 scale.toNat * Nat.pow 2 (-e).toNat)

/-- The multiple of `10 ^ scale` next to `m · 2 ^ e` that reads back, the
nearer one of two, the even one of two equally near ones. -/
def hit? (m : Nat) (e scale : Int) : Option Nat :=
  let below := floorAt m e scale
  match readsBack m e below scale, readsBack m e (below + 1) scale with
  | false, false => none
  | true, false => some below
  | false, true => some (below + 1)
  | true, true =>
    match compareScaled (2 * below + 1) scale (2 * m) e with
    | .gt => some below
    | .lt => some (below + 1)
    | .eq => some (below + below % 2)

/-- The first scale with a hit, from a scale downward. -/
def search (m : Nat) (e : Int) : Nat → Int → Option (Nat × Int)
  | 0, _ => none
  | fuel + 1, scale =>
    match hit? m e scale with
    | some digits => some (digits, scale)
    | none => search m e fuel (scale - 1)

/-- A scale that is above the number and at most a few digits too large. -/
def scaleAbove (m : Nat) (e : Int) : Int := ((m.log2 : Int) + e) * 30103 / 100000 + 2

/-- The digits without the zeros at their end, and how many these are. -/
def stripZeros : Nat → Nat → Nat × Nat
  | 0, n => (n, 0)
  | fuel + 1, n =>
    if n % 10 = 0 then
      let (digits, zeros) := stripZeros fuel (n / 10)
      (digits, zeros + 1)
    else (n, 0)

/-- **The shortest decimal that reads back**: its digits and the power of
ten they are scaled by. -/
def shortest (m : Nat) (e : Int) : Nat × Int :=
  let (digits, scale) := (search m e 24 (scaleAbove m e)).getD (floorAt m e (-1100), -1100)
  let (digits, zeros) := stripZeros 24 digits
  (digits, scale + zeros)

/-- Digits with a point behind the first `place` of them. -/
def positional (digits : List Char) (place : Int) : List Char :=
  if place ≤ 0 then '0' :: '.' :: List.replicate (-place).toNat '0' ++ digits
  else
    let whole := digits.take place.toNat
    let padding := List.replicate (place.toNat - digits.length) '0'
    let fraction := digits.drop place.toNat
    whole ++ padding ++ '.' :: (if fraction.isEmpty then ['0'] else fraction)

/-- Digits with a point behind the first one and an exponent of at least
two digits. -/
def exponential (digits : List Char) (exponent : Int) : List Char :=
  let power := Nat.toDigits 10 exponent.natAbs
  let mantissa :=
    match digits with
    | [] => ['0']
    | [d] => [d]
    | d :: rest => d :: '.' :: rest
  mantissa ++ 'e' :: (if exponent < 0 then '-' else '+')
    :: (List.replicate (2 - power.length) '0' ++ power)

/-- The text of a number that is not negative. The point is written where
it stands if at most three zeros are in front of the digits and at most
sixteen digits in front of the point. -/
def unsignedText (m : Nat) (e : Int) : List Char :=
  if m = 0 then ['0', '.', '0']
  else
    let (digits, scale) := shortest m e
    let digits := Nat.toDigits 10 digits
    let place := digits.length + scale
    if -4 < place ∧ place ≤ 16 then positional digits place else exponential digits (place - 1)

/-- **The text of a binary number.** -/
def text : Binary64 → String
  | .finite negative m e => String.ofList ((if negative then ['-'] else []) ++ unsignedText m e)
  | .infinite negative => if negative then "-inf" else "inf"
  | .undefined => "nan"

end TypedTraffic.Binary64
