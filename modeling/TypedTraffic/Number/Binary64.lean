/-!
# Decimals and the binary numbers they stand for

A number written with a point or an exponent stands for the binary
number of 53 significant bits nearest to it, a half going to the even
neighbour, and for infinity beyond the largest one. Decimals are read
exactly and rounded once.
-/

namespace TypedTraffic

/-- **A decimal**: `± coefficient · 10 ^ exponent`. -/
structure Decimal where
  /-- Whether a minus sign is in front. -/
  negative : Bool
  /-- The digits, read as one number. -/
  coefficient : Nat
  /-- The power of ten they are scaled by. -/
  exponent : Int
  deriving DecidableEq

/-- **A binary number of 53 bits**: `± significand · 2 ^ exponent`, an
infinity, or no number. -/
inductive Binary64 where
  /-- A finite number. -/
  | finite (negative : Bool) (significand : Nat) (exponent : Int)
  /-- An infinity. -/
  | infinite (negative : Bool)
  /-- The result of an undefined operation. -/
  | undefined
  deriving DecidableEq

namespace Binary64

/-- The quotient rounded to the nearest whole number, a half to the even
one. -/
def roundQuotient (num den : Nat) : Nat :=
  let q := num / den
  let r := num % den
  if 2 * r < den then q else if den < 2 * r then q + 1 else q + q % 2

/-- A positive quotient rounded to 53 bits: the significand and the
power of two it is scaled by. The power is at least -1074. -/
def roundToBits (num den : Nat) : Nat × Int :=
  let scaled (e : Int) : Nat × Nat :=
    if e < 0 then (num * Nat.pow 2 (-e).toNat, den) else (num, den * Nat.pow 2 e.toNat)
  let guess : Int := (num.log2 : Int) - den.log2 - 53
  let exact (e : Int) : Bool := (scaled e).1 / (scaled e).2 < Nat.pow 2 53
  let e := max (-1074) (if exact guess then guess else guess + 1)
  let m := roundQuotient (scaled e).1 (scaled e).2
  if m = Nat.pow 2 53 then (Nat.pow 2 52, e + 1) else (m, e)

/-- The number of decimal digits of a number, zero having none. -/
def digitCount (n : Nat) : Nat := if n = 0 then 0 else (Nat.toDigits 10 n).length

/-- **The binary number nearest to a decimal.** -/
def ofDecimal (d : Decimal) : Binary64 :=
  let size := digitCount d.coefficient + d.exponent
  if d.coefficient = 0 ∨ size < -400 then .finite d.negative 0 0
  else if 400 < size then .infinite d.negative
  else
    let (m, e) :=
      if d.exponent < 0 then roundToBits d.coefficient (Nat.pow 10 (-d.exponent).toNat)
      else roundToBits (d.coefficient * Nat.pow 10 d.exponent.toNat) 1
    if 971 < e then .infinite d.negative else .finite d.negative m e

/-- **The whole number a binary number is equal to**, if there is one. -/
def toInt? : Binary64 → Option Int
  | .finite negative m e =>
    let whole : Option Nat :=
      if 0 ≤ e then some (m * Nat.pow 2 e.toNat)
      else if m % Nat.pow 2 (-e).toNat = 0 then some (m / Nat.pow 2 (-e).toNat)
      else none
    whole.map fun n => if negative then -(n : Int) else n
  | .infinite _ => none
  | .undefined => none

end Binary64

end TypedTraffic
