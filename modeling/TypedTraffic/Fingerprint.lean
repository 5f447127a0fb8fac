import TypedTraffic.Text.Class
import TypedTraffic.Declaration.Canonical

/-!
# Fingerprints of definitions

The fingerprint of a definition is a 32-bit hash of its canonical text,
written in base 36. Definitions of one shape have one fingerprint,
whatever names they declare; that two shapes may share one is accepted.
-/

namespace TypedTraffic.Fingerprint

open Text

/-- The digits of a positive number in base 36, the last digit first. -/
def digitsRev (n : Nat) : List Char :=
  if h : n = 0 then [] else digitChar (n % 36) :: digitsRev (n / 36)
  termination_by n
  decreasing_by omega

/-- **A whole number in base 36**, in lower case. -/
def base36 (v : Int) : String :=
  if v = 0 then "0"
  else
    let digits := (digitsRev v.natAbs).reverse
    String.ofList (if v < 0 then '-' :: digits else digits)

/-- One step of the rolling hash. -/
def hashStep (h : Nat) (c : Char) : Nat := (h * 31 + c.toNat) % Nat.pow 2 32

/-- The rolling hash of a text, a number below 2³². -/
def rollingHash (cs : List Char) : Nat := cs.foldl hashStep 0

/-- A number below 2³² read as a signed one. -/
def signed32 (n : Nat) : Int := if n < Nat.pow 2 31 then n else n - Nat.pow 2 32

end TypedTraffic.Fingerprint

namespace TypedTraffic

/-- **The fingerprint of a definition's text.** -/
def fingerprint (text : String) : String :=
  Fingerprint.base36
    (Fingerprint.signed32 (Fingerprint.rollingHash (Canonical.canonical text).toList))

end TypedTraffic
