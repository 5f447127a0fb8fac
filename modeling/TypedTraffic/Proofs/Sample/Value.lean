import TypedTraffic.Proofs.Text.Casing
import TypedTraffic.Sample

/-!
# The types of form values

A form value is a number if it is a whole number, a truth value if it is
one of two words in any case, and a string otherwise
(`hasValueType_iff`). The case that counts is that of ASCII letters.
-/

namespace TypedTraffic

open Text

namespace Sample

/-! ## Form values -/

/-- **A whole number**: digits, with a minus sign in front or without. -/
def IsInteger (value : List Char) : Prop :=
  ∃ digits : List Char, digits ≠ [] ∧ (∀ c ∈ digits, '0' ≤ c ∧ c ≤ '9')
    ∧ (value = digits ∨ value = '-' :: digits)

/-- **A truth value**: one of two words, in letters of any case. -/
def IsTruthValue (value : List Char) : Prop :=
  value.map Char.toLower = "true".toList ∨ value.map Char.toLower = "false".toList

/-- **The type of a value.** -/
inductive HasValueType (value : String) : TypeExpr → Prop
  /-- A whole number is a number. -/
  | number : IsInteger value.toList → HasValueType value .number
  /-- A truth value is one. -/
  | boolean : IsTruthValue value.toList → HasValueType value .boolean
  /-- Everything else is a string. -/
  | string : ¬ IsInteger value.toList → ¬ IsTruthValue value.toList → HasValueType value .string

theorem isWholeNumber_iff {cs : List Char} : isWholeNumber cs = true ↔ IsInteger cs := by
  have hdigits : ∀ {ds : List Char}, (!ds.isEmpty && ds.all Char.isDigit) = true
      ↔ ds ≠ [] ∧ ∀ c ∈ ds, '0' ≤ c ∧ c ≤ '9' := by
    intro ds
    rw [Bool.and_eq_true, Bool.not_eq_true', List.isEmpty_eq_false_iff, List.all_eq_true]
    refine and_congr_right fun _ => forall₂_congr fun c _ => ?_
    rw [Naming.isDigit_iff]
    exact Iff.rfl
  unfold isWholeNumber
  split
  · rename_i rest
    rw [hdigits]
    constructor
    · exact fun h => ⟨rest, h.1, h.2, Or.inr rfl⟩
    · rintro ⟨digits, hne, hall, rfl | heq⟩
      · exact absurd (hall '-' List.mem_cons_self) (by decide)
      · obtain rfl : rest = digits := (List.cons.inj heq).2
        exact ⟨hne, hall⟩
  · rename_i hsign
    rw [hdigits]
    constructor
    · exact fun h => ⟨cs, h.1, h.2, Or.inl rfl⟩
    · rintro ⟨digits, hne, hall, rfl | heq⟩
      · exact ⟨hne, hall⟩
      · exact absurd heq (hsign digits)

theorem lower_iff_isTruthValue (value : String) :
    lower value = "true" ∨ lower value = "false" ↔ IsTruthValue value.toList := by
  unfold IsTruthValue
  rw [lower_eq_iff (by unfold IsPlainLower; decide), lower_eq_iff (by unfold IsPlainLower; decide)]

/-- No whole number is a truth value: it begins with no letter. -/
theorem not_isTruthValue_of_isInteger {value : List Char} (h : IsInteger value) :
    ¬ IsTruthValue value := by
  obtain ⟨digits, hne, hall, hvalue⟩ := h
  obtain ⟨d, ds, rfl⟩ := List.exists_cons_of_ne_nil hne
  obtain ⟨c, cs, rfl, hc⟩ : ∃ c cs, value = c :: cs ∧ c.toNat ≤ 57 := by
    rcases hvalue with rfl | rfl
    · exact ⟨d, ds, rfl, (hall d List.mem_cons_self).2⟩
    · exact ⟨'-', d :: ds, rfl, by decide⟩
  have hlower : c.toLower.toNat ≤ 57 := by
    have hnat := Naming.toNat_toLower c
    split at hnat
    · rename_i hupper
      have hrange := Naming.isUpper_iff.mp hupper
      omega
    · omega
  rintro (htrue | hfalse)
  · have hhead : c.toLower = 't' := (List.cons.inj htrue).1
    rw [hhead] at hlower
    exact absurd hlower (by decide)
  · have hhead : c.toLower = 'f' := (List.cons.inj hfalse).1
    rw [hhead] at hlower
    exact absurd hlower (by decide)

/-- **The type of a form value.** -/
theorem hasValueType_iff {value : String} {type : TypeExpr} :
    HasValueType value type ↔ formValueType value = type := by
  have htruth := lower_iff_isTruthValue value
  unfold formValueType
  constructor
  · intro h
    cases h with
    | number hnumber => rw [if_pos (isWholeNumber_iff.mpr hnumber)]
    | boolean hboolean =>
      have hnumber : ¬ isWholeNumber value.toList = true := fun hnumber =>
        not_isTruthValue_of_isInteger (isWholeNumber_iff.mp hnumber) hboolean
      rw [if_neg hnumber, if_pos (htruth.mpr hboolean)]
    | string hnumber hboolean =>
      rw [if_neg (isWholeNumber_iff.not.mpr hnumber), if_neg (htruth.not.mpr hboolean)]
  · rintro rfl
    split
    · rename_i hnumber
      exact .number (isWholeNumber_iff.mp hnumber)
    · rename_i hnumber
      split
      · rename_i hboolean
        exact .boolean (htruth.mp hboolean)
      · rename_i hboolean
        exact .string (isWholeNumber_iff.not.mp hnumber) (htruth.not.mp hboolean)

end Sample

end TypedTraffic
