import Mathlib.Data.List.DropRight
import TypedTraffic.Proofs.Naming.Identifier

/-!
# Words joined by underscores

The words of a text, joined by underscores, are **trimmed**: they are
name characters, at least one, with no underscore at either end
(`isTrimmed_joinedWords`). A trimmed text that is cut short may end in an
underscore; without the underscores at its new end it is trimmed again,
since its first character is none (`IsTrimmed.cut`).

What is joined begins with the first letter or digit of the text
(`head?_joinedWords`), be it a letter or a digit.
-/

namespace TypedTraffic.Naming

open Text

/-- **Name characters with no underscore at either end**, at least one. -/
structure IsTrimmed (cs : List Char) : Prop where
  /-- There is a character. -/
  nonempty : cs ≠ []
  /-- All are name characters. -/
  chars : ∀ c ∈ cs, isNameChar c = true
  /-- The first is no underscore. -/
  head : cs.head? ≠ some '_'
  /-- The last is no underscore. -/
  last : cs.getLast? ≠ some '_'

/-- A word is trimmed. -/
theorem isTrimmed_word {w : List Char} (hne : w ≠ []) (hw : ∀ c ∈ w, isAlphanumeric c = true) :
    IsTrimmed w := by
  have hnone : '_' ∉ w := fun h => absurd (hw '_' h) (by decide)
  exact ⟨hne, fun c hc => isNameChar_iff.mpr (Or.inl (hw c hc)),
    fun h => hnone (List.mem_of_mem_head? h), fun h => hnone (List.mem_of_getLast? h)⟩

/-- Trimmed texts with an underscore between them are trimmed. -/
theorem IsTrimmed.append {cs ds : List Char} (hc : IsTrimmed cs) (hd : IsTrimmed ds) :
    IsTrimmed (cs ++ '_' :: ds) := by
  refine ⟨by simp, fun c h => ?_, ?_, ?_⟩
  · rcases List.mem_append.mp h with h | h
    · exact hc.chars c h
    · rcases List.mem_cons.mp h with rfl | h
      · decide
      · exact hd.chars c h
  · rw [List.head?_append_of_ne_nil _ hc.nonempty]
    exact hc.head
  · rw [List.getLast?_append_of_ne_nil _ (by simp), List.getLast?_cons_of_ne_nil hd.nonempty]
    exact hd.last

/-- **Words joined by underscores are trimmed.** -/
theorem isTrimmed_join {ws : List (List Char)} (hne : ws ≠ [])
    (hws : ∀ w ∈ ws, w ≠ [] ∧ ∀ c ∈ w, isAlphanumeric c = true) : IsTrimmed (join ['_'] ws) := by
  induction ws with
  | nil => exact absurd rfl hne
  | cons w ws ih =>
    have hw : IsTrimmed w :=
      isTrimmed_word (hws w List.mem_cons_self).1 (hws w List.mem_cons_self).2
    cases ws with
    | nil => exact hw
    | cons v vs =>
      have hrest := ih (by simp) fun u hu => hws u (List.mem_cons_of_mem _ hu)
      have happend := hw.append hrest
      rw [List.append_cons] at happend
      exact happend

/-- **The joined words of a text are trimmed**, if what stands for none
is. -/
theorem isTrimmed_joinedWords {fallback : String} (h : IsTrimmed fallback.toList) (s : String) :
    IsTrimmed (joinedWords fallback s).toList := by
  unfold joinedWords
  split
  · exact h
  · rename_i hne
    rw [String.toList_ofList]
    exact isTrimmed_join hne fun w hw => word_of_mem_words hw

/-! ## The first character -/

/-- What stands in front of the first word is skipped. -/
theorem words_cons_of_not {c : Char} (h : isAlphanumeric c = false) (cs : List Char) :
    words (c :: cs) = words cs := by
  unfold words
  rw [splitWhere, if_pos (by rw [h]; rfl), List.filter_cons_of_neg (by simp)]

/-- A letter or digit at the beginning begins the first word. -/
theorem exists_words_cons {c : Char} (h : isAlphanumeric c = true) (cs : List Char) :
    ∃ w ws, words (c :: cs) = (c :: w) :: ws := by
  unfold words
  rw [splitWhere, if_neg (by simp [h])]
  split
  · exact ⟨[], [], rfl⟩
  · rename_i piece pieces hpieces
    exact ⟨piece, pieces.filter (!·.isEmpty), List.filter_cons_of_pos (by simp)⟩

/-- What is joined begins as the first word does. -/
theorem head?_join_cons (c : Char) (w : List Char) (ws : List (List Char)) :
    (join ['_'] ((c :: w) :: ws)).head? = some c := by
  cases ws <;> rfl

/-- **Joined words begin with the first letter or digit** of the text. -/
theorem head?_join_words (cs : List Char) :
    (join ['_'] (words cs)).head? = cs.find? isAlphanumeric := by
  induction cs with
  | nil => rfl
  | cons c cs ih =>
    by_cases hc : isAlphanumeric c = true
    · obtain ⟨w, ws, hwords⟩ := exists_words_cons hc cs
      rw [hwords, head?_join_cons, List.find?_cons_of_pos hc]
    · rw [words_cons_of_not (by simpa using hc), ih, List.find?_cons_of_neg hc]

/-- The joined words of a text begin with its first letter or digit, or as
what stands for none. -/
theorem head?_joinedWords (fallback s : String) :
    (joinedWords fallback s).toList.head?
      = (s.toList.find? isAlphanumeric).or fallback.toList.head? := by
  rw [← head?_join_words]
  unfold joinedWords
  split
  · rename_i hnone
    rw [hnone]
    rfl
  · rename_i hne
    obtain ⟨w, ws, hws⟩ := List.exists_cons_of_ne_nil hne
    obtain ⟨c, cs, rfl⟩ :=
      List.exists_cons_of_ne_nil (word_of_mem_words (by rw [hws]; exact List.mem_cons_self)).1
    rw [String.toList_ofList, hws, head?_join_cons]
    rfl

/-! ## Cutting short -/

/-- **A trimmed text that is cut short** is trimmed without the underscores
at its new end. -/
theorem IsTrimmed.cut {cs : List Char} (h : IsTrimmed cs) {n : Nat} (hn : 0 < n) :
    IsTrimmed (dropEndWhile (· == '_') (cs.take n)) := by
  obtain ⟨c, rest, rfl⟩ := List.exists_cons_of_ne_nil h.nonempty
  have hc : c ≠ '_' := fun hc => h.head (by rw [List.head?_cons, hc])
  obtain ⟨m, rfl⟩ := Nat.exists_eq_succ_of_ne_zero (Nat.ne_of_gt hn)
  have hshort : dropEndWhile (· == '_') ((c :: rest).take (m + 1))
      = ((c :: rest).take (m + 1)).rdropWhile (· == '_') := rfl
  rw [hshort]
  -- the first character is kept, since it is no underscore
  have hne : ((c :: rest).take (m + 1)).rdropWhile (· == '_') ≠ [] := by
    rw [ne_eq, List.rdropWhile_eq_nil_iff, List.take_succ_cons]
    intro hall
    exact hc (by simpa using hall c List.mem_cons_self)
  have hpre : ((c :: rest).take (m + 1)).rdropWhile (· == '_') <+: c :: rest :=
    (List.rdropWhile_prefix _ _).trans (List.take_prefix _ _)
  refine ⟨hne, fun d hd => h.chars d (hpre.subset hd), ?_, fun hlast => ?_⟩
  · obtain ⟨d, ds, hds⟩ := List.exists_cons_of_ne_nil hne
    rw [hds] at hpre ⊢
    rw [List.head?_cons, (List.cons_prefix_cons.mp hpre).1]
    exact h.head
  · refine List.rdropWhile_last_not (· == '_') _ hne ?_
    rw [List.getLast?_eq_some_getLast hne, Option.some.injEq] at hlast
    rw [hlast]
    decide

end TypedTraffic.Naming
