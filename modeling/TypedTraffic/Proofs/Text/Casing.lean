import TypedTraffic.Proofs.Naming.Identifier
import TypedTraffic.Text.Casing

/-!
# Upper and lower case

A character is mapped by a run of its table, to a number that is moved from
its own by the shift of the run (`exists_run_of_shifted`).

Lower case is that of all characters, and some that are not ASCII have the
lower case of an ASCII letter. A word in which none of these letters stands
is the lower case of its ASCII spellings only (`lower_eq_iff`).
-/

namespace TypedTraffic.Text

/-! ## Runs -/

/-- A character that is made from a number has that number, or none. -/
theorem toNat_ofNat_cases (n : Nat) : (Char.ofNat n).toNat = n ∨ (Char.ofNat n).toNat = 0 := by
  by_cases hvalid : n.isValidChar
  · exact Or.inl (toNat_charOfNat hvalid)
  · right
    rw [Char.ofNat, dif_neg hvalid]
    rfl

/-- **What a table of runs maps** is in one of the runs, and moved by its
shift. -/
theorem exists_run_of_shifted {runs : List (Nat × Nat × Nat × Int)} {n m : Nat}
    (h : shifted runs n = some m) :
    ∃ r ∈ runs, r.1 ≤ n ∧ n ≤ r.2.1 ∧ m = ((n : Int) + r.2.2.2).toNat := by
  induction runs with
  | nil => cases h
  | cons r runs ih =>
    obtain ⟨first, last, step, shift⟩ := r
    rw [shifted] at h
    split at h
    · rename_i hin
      exact ⟨_, List.mem_cons_self, hin.1, hin.2.1, (Option.some.inj h).symm⟩
    · obtain ⟨r, hr, hrest⟩ := ih h
      exact ⟨r, List.mem_cons_of_mem _ hr, hrest⟩

/-! ## Lower case -/

/-- Letters that are the lower case of ASCII letters only. -/
def IsPlainLower (c : Char) : Prop := c.isLower = true ∧ c ≠ 'i' ∧ c ≠ 'k'

/-- The runs of lower case lead beyond the plain letters, except for one
sign. -/
theorem lowerRuns_images : ∀ r ∈ Table.lowerRuns,
    122 < (r.1 : Int) + r.2.2.2 ∨ r.1 = r.2.1 ∧ (r.1 : Int) + r.2.2.2 = 107 := by
  decide +kernel

theorem shifted_lowerRuns {n m : Nat} (h : shifted Table.lowerRuns n = some m) :
    122 < m ∨ m = 107 := by
  obtain ⟨r, hr, hfirst, hlast, hm⟩ := exists_run_of_shifted h
  rcases lowerRuns_images r hr with himage | ⟨heq, himage⟩ <;> omega

theorem not_isPlainLower_of_le {c : Char} (h : 128 ≤ c.toNat) : ¬ IsPlainLower c := by
  intro hc
  have hrange := Naming.isLower_iff.mp hc.1
  omega

/-- **What is not ASCII** does not have a lower case that begins with a
plain letter. -/
theorem exists_lowerChar_eq_cons {c : Char} (h : 128 ≤ c.toNat) :
    ∃ d ds, lowerChar c = d :: ds ∧ ¬ IsPlainLower d := by
  rw [lowerChar, if_neg (Nat.not_lt_of_le h), mapped]
  split
  · rename_i image himage
    -- the one sequence begins with an i
    obtain ⟨before, behind, heq, -⟩ := List.lookup_eq_some_iff.mp himage
    have hmem : (c.toNat, image) ∈ Table.lowerSequences := heq ▸ by simp
    rw [Table.lowerSequences, List.mem_singleton, Prod.mk.injEq] at hmem
    rw [hmem.2]
    exact ⟨'i', _, rfl, fun hi => hi.2.1 rfl⟩
  · split
    · rename_i n hn
      refine ⟨_, [], rfl, fun hplain => ?_⟩
      have hrange := Naming.isLower_iff.mp hplain.1
      rcases shifted_lowerRuns hn with hn | rfl
      · rcases toNat_ofNat_cases n with heq | heq <;> omega
      · exact hplain.2.2 rfl
    · exact ⟨c, [], rfl, not_isPlainLower_of_le h⟩

theorem lowerAfter_eq_iff (cs : List Char) : ∀ (before : List Char) {target : List Char},
    (∀ t ∈ target, IsPlainLower t) →
      (lowerAfter before cs = target ↔ cs.map Char.toLower = target) := by
  induction cs with
  | nil => exact fun _ _ _ => Iff.rfl
  | cons c cs ih =>
    intro before target htarget
    rw [lowerAfter, List.map_cons]
    by_cases hc : c.toNat < 128
    · have hsigma : c ≠ 'Σ' := by
        rintro rfl
        exact absurd hc (by decide)
      rw [if_neg hsigma, lowerChar, if_pos hc, List.singleton_append]
      cases target with
      | nil => simp
      | cons t ts =>
        rw [List.cons.injEq, List.cons.injEq,
          ih (c :: before) fun t ht => htarget t (List.mem_cons_of_mem _ ht)]
    · have hbeyond : 128 ≤ c.toNat := Nat.le_of_not_lt hc
      obtain ⟨d, ds, hlower, hd⟩ : ∃ d ds, (if c = 'Σ' then
          if meetsCased before && !meetsCased cs then ['ς'] else ['σ']
        else lowerChar c) = d :: ds ∧ ¬ IsPlainLower d := by
        split
        · split
          · exact ⟨_, [], rfl, not_isPlainLower_of_le (by decide)⟩
          · exact ⟨_, [], rfl, not_isPlainLower_of_le (by decide)⟩
        · exact exists_lowerChar_eq_cons hbeyond
      have hself : c.toLower = c := by
        have hnat := Naming.toNat_toLower c
        split at hnat
        · rename_i hupper
          have hrange := Naming.isUpper_iff.mp hupper
          omega
        · exact Char.toNat_inj.mp hnat
      rw [hlower, hself, List.cons_append]
      -- the first character tells both sides from the target
      refine iff_of_false (fun heq => hd (htarget d ?_)) fun heq =>
        not_isPlainLower_of_le hbeyond (htarget c ?_)
      · exact heq ▸ List.mem_cons_self
      · exact heq ▸ List.mem_cons_self

/-- **A word in lower case**, if its letters are plain, is had by texts that
are the word in ASCII letters of any case. -/
theorem lower_eq_iff {word : String} (h : ∀ c ∈ word.toList, IsPlainLower c) (s : String) :
    lower s = word ↔ s.toList.map Char.toLower = word.toList := by
  rw [← lowerAfter_eq_iff s.toList [] h, lower, ← String.toList_inj, String.toList_ofList]

end TypedTraffic.Text
