import TypedTraffic.Text.Class

/-!
# Numerals

A run of digits stands for a number, most significant digit first.
-/

namespace TypedTraffic.Text

/-- The number of some digits behind a number that has been read. -/
def numeralFrom (base : Nat) : Nat → List Char → Nat
  | n, [] => n
  | n, c :: cs => numeralFrom base (n * base + (hexValue? c).getD 0) cs

/-- **The number a run of digits stands for** in a base of at most
sixteen. -/
def numeral (base : Nat) (digits : List Char) : Nat := numeralFrom base 0 digits

end TypedTraffic.Text
