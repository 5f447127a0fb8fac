import Mathlib.Data.List.Nodup
import Mathlib.Data.List.Perm.Subperm
import TypedTraffic.Naming.Numbered

/-!
# The first free name is free

The names of a series are pairwise different, so a series has one name
more among its first members than there are names taken, and the search
for a free one ends at a name that is free (`firstFree_not_mem`). What
the search gives is the base or the base with a separator and a number
behind it (`firstFree_eq_append`), the least number that makes it free
(`firstFree_cases`).
-/

namespace TypedTraffic.Naming

/-- The digits of a number, as the text that stands for it has them. -/
theorem toList_toString (n : Nat) : (toString n).toList = Nat.toDigits 10 n := by
  rw [Nat.toString_eq_repr, Nat.toList_repr]

theorem toDigits_ne_nil (n : Nat) : Nat.toDigits 10 n ≠ [] := by
  intro h
  have hlen := Nat.length_toDigits_pos (b := 10) (n := n)
  rw [h] at hlen
  exact absurd hlen (by simp)

/-- **Different numbers have different numerals.** -/
theorem toDigits_injective : Function.Injective (Nat.toDigits 10) := by
  intro m n h
  have hread := congrArg (fun digits => Nat.ofDigitChars 10 digits 0) h
  simpa using hread

/-- **The names of a series are pairwise different.** -/
theorem numbered_injective (sep base : String) :
    Function.Injective (numbered sep base) := by
  have htail : ∀ k, (numbered sep base (k + 1)).toList
      = base.toList ++ (sep.toList ++ Nat.toDigits 10 (k + 1)) := by
    intro k
    simp only [numbered, String.toList_append, toList_toString, List.append_assoc]
  have hne : ∀ k, numbered sep base (k + 1) ≠ base := by
    intro k h
    have hlen := congrArg (fun s : String => s.toList.length) h
    have hpos := List.length_pos_iff.mpr (toDigits_ne_nil (k + 1))
    simp only [htail, List.length_append] at hlen
    omega
  intro i j h
  cases i with
  | zero =>
    cases j with
    | zero => rfl
    | succ j => exact absurd h.symm (hne j)
  | succ i =>
    cases j with
    | zero => exact absurd h (hne i)
    | succ j =>
      have hl := congrArg String.toList h
      rw [htail, htail] at hl
      have hd := List.append_cancel_left (List.append_cancel_left hl)
      exact toDigits_injective hd

/-- A search of limited length that finds nothing free stops at its
limit. -/
theorem freeIndexFrom_eq_of_mem {taken : List String} {name : Nat → String} {steps k : Nat}
    (h : name (freeIndexFrom taken name steps k) ∈ taken) :
    freeIndexFrom taken name steps k = k + steps := by
  induction steps generalizing k with
  | zero => rfl
  | succ steps ih =>
    unfold freeIndexFrom at h ⊢
    split
    · rename_i hk
      rw [if_pos hk] at h
      rw [ih h]
      omega
    · rename_i hk
      rw [if_neg hk] at h
      exact absurd h hk

/-- **The name at the least free index is free**, as long as the names of
the series are pairwise different. -/
theorem firstFreeIndex_not_mem {taken : List String} {name : Nat → String}
    (hname : Function.Injective name) : name (firstFreeIndex taken name) ∉ taken := by
  intro h
  have hlimit : firstFreeIndex taken name = taken.length + 1 := by
    rw [firstFreeIndex, freeIndexFrom_eq_of_mem h]
    omega
  -- then all the names before the limit are taken, which are too many
  have hsub : (List.range (taken.length + 1)).map name ⊆ taken := by
    intro x hx
    obtain ⟨j, hj, rfl⟩ := List.mem_map.mp hx
    exact mem_of_lt_firstFreeIndex (hlimit ▸ List.mem_range.mp hj)
  have hle := (List.subperm_of_subset (List.nodup_range.map hname) hsub).length_le
  rw [List.length_map, List.length_range] at hle
  omega

/-- **The first free name of a series is free.** -/
theorem firstFree_not_mem (sep : String) (taken : List String) (base : String) :
    firstFree sep taken base ∉ taken :=
  firstFreeIndex_not_mem (numbered_injective sep base)

/-- **The first free name of a series** is its base if that is free, and
else the base with the least positive number that makes it free. -/
theorem firstFree_cases (sep : String) (taken : List String) (base : String) :
    base ∉ taken ∧ firstFree sep taken base = base
    ∨ base ∈ taken ∧ ∃ k, 0 < k ∧ firstFree sep taken base = base ++ sep ++ toString k
      ∧ base ++ sep ++ toString k ∉ taken
      ∧ ∀ j, 0 < j → j < k → base ++ sep ++ toString j ∈ taken := by
  have hfree := firstFree_not_mem sep taken base
  have hleast : ∀ j, j < firstFreeIndex taken (numbered sep base) → numbered sep base j ∈ taken :=
    fun j hj => mem_of_lt_firstFreeIndex hj
  unfold firstFree at hfree ⊢
  cases hk : firstFreeIndex taken (numbered sep base) with
  | zero =>
    rw [hk] at hfree
    exact Or.inl ⟨hfree, rfl⟩
  | succ k =>
    rw [hk] at hfree hleast
    refine Or.inr ⟨hleast 0 (Nat.succ_pos k), k + 1, Nat.succ_pos k, rfl, hfree, ?_⟩
    intro j hpos hj
    obtain ⟨i, rfl⟩ := Nat.exists_eq_succ_of_ne_zero (Nat.ne_of_gt hpos)
    exact hleast (i + 1) hj

/-- **Where a search stops** depends only on which names of the series are
taken, and on how many are. -/
theorem firstFreeIndex_congr {taken taken' : List String} {name name' : Nat → String}
    (hlength : taken'.length = taken.length) (h : ∀ k, name' k ∈ taken' ↔ name k ∈ taken) :
    firstFreeIndex taken' name' = firstFreeIndex taken name := by
  have hfrom : ∀ steps k, freeIndexFrom taken' name' steps k = freeIndexFrom taken name steps k := by
    intro steps
    induction steps with
    | zero => exact fun k => rfl
    | succ steps ih =>
      intro k
      rw [freeIndexFrom, freeIndexFrom, ih]
      simp only [h]
  rw [firstFreeIndex, firstFreeIndex, hlength, hfrom]

/-- **What is put behind the base of a series** to make it free: nothing,
or the separator and a number. -/
theorem firstFree_eq_append (sep : String) (taken : List String) (base : String) :
    ∃ tail : String, firstFree sep taken base = base ++ tail
      ∧ ∀ c ∈ tail.toList, c ∈ sep.toList ∨ c.isDigit = true := by
  unfold firstFree
  cases firstFreeIndex taken (numbered sep base) with
  | zero => exact ⟨"", by simp [numbered], by simp⟩
  | succ k =>
    refine ⟨sep ++ toString (k + 1), by rw [numbered, String.append_assoc], fun c hc => ?_⟩
    rw [String.toList_append, List.mem_append, toList_toString] at hc
    exact hc.imp_right (Nat.isDigit_of_mem_toDigits (by decide) (by decide))

end TypedTraffic.Naming
