/-!
# Cutting a text at separators

Cutting at every separator gives one piece more than there are
separators, empty pieces included, and joining the pieces again gives
the text back (`join_split`).
-/

namespace TypedTraffic.Text

/-- **The pieces of a text between the characters that satisfy `p`.** -/
def splitWhere (p : Char → Bool) : List Char → List (List Char)
  | [] => [[]]
  | c :: cs =>
    if p c then [] :: splitWhere p cs
    else
      match splitWhere p cs with
      | [] => [[c]]
      | piece :: pieces => (c :: piece) :: pieces

/-- The pieces of a text between the occurrences of `sep`. -/
def split (sep : Char) (cs : List Char) : List (List Char) := splitWhere (· == sep) cs

/-- The pieces with a separator between them. -/
def join (sep : List Char) : List (List Char) → List Char
  | [] => []
  | [piece] => piece
  | piece :: pieces => piece ++ sep ++ join sep pieces

/-- The text before the first separator and, if there is one, the text
after it. -/
def cut (sep : Char) : List Char → List Char × Option (List Char)
  | [] => ([], none)
  | c :: cs =>
    if c = sep then ([], some cs)
    else ((c :: (cut sep cs).1), (cut sep cs).2)

/-- Replace every occurrence of a character by a sequence. -/
def replaceChar (c : Char) (image : List Char) (cs : List Char) : List Char :=
  cs.flatMap fun d => if d = c then image else [d]

/-- The text without the trailing characters that satisfy `p`. -/
def dropEndWhile (p : Char → Bool) (cs : List Char) : List Char :=
  (cs.reverse.dropWhile p).reverse

theorem splitWhere_ne_nil (p : Char → Bool) (cs : List Char) : splitWhere p cs ≠ [] := by
  induction cs with
  | nil => simp [splitWhere]
  | cons c cs ih =>
    unfold splitWhere
    split
    · simp
    · split <;> simp

theorem split_ne_nil (sep : Char) (cs : List Char) : split sep cs ≠ [] :=
  splitWhere_ne_nil _ cs

theorem join_split (sep : Char) (cs : List Char) : join [sep] (split sep cs) = cs := by
  induction cs with
  | nil => rfl
  | cons c cs ih =>
    unfold split at ih
    by_cases h : c = sep
    · subst h
      cases hs : splitWhere (· == c) cs with
      | nil => exact absurd hs (splitWhere_ne_nil _ _)
      | cons p ps => simp_all [split, splitWhere, join]
    · cases hs : splitWhere (· == sep) cs with
      | nil => exact absurd hs (splitWhere_ne_nil _ _)
      | cons p ps =>
        rw [hs] at ih
        cases ps <;> simp_all [split, splitWhere, join]

theorem split_append_cons (sep : Char) (cs ds : List Char) :
    split sep (cs ++ sep :: ds) = split sep cs ++ split sep ds := by
  induction cs with
  | nil => simp [split, splitWhere]
  | cons c cs ih =>
    unfold split at ih ⊢
    rw [List.cons_append, splitWhere, splitWhere, ih]
    split
    · rfl
    · obtain ⟨p, ps, hsplit⟩ := List.exists_cons_of_ne_nil (splitWhere_ne_nil (· == sep) cs)
      rw [hsplit]
      rfl

theorem split_of_not_mem {sep : Char} {cs : List Char} (h : sep ∉ cs) : split sep cs = [cs] := by
  induction cs with
  | nil => rfl
  | cons c cs ih =>
    rw [List.mem_cons, not_or] at h
    have hsplit := ih h.2
    unfold split at hsplit ⊢
    rw [splitWhere, hsplit, if_neg (by simpa using Ne.symm h.1)]

/-- The first cut, without the recursion. -/
theorem cut_eq (sep : Char) (cs : List Char) :
    cut sep cs = (cs.takeWhile (· ≠ sep),
      if sep ∈ cs then some (cs.dropWhile (· ≠ sep)).tail else none) := by
  induction cs with
  | nil => rfl
  | cons c cs ih =>
    rw [cut]
    split
    · rename_i hc
      simp [hc]
    · rename_i hc
      have hmem : sep ∈ c :: cs ↔ sep ∈ cs := by simp [Ne.symm hc]
      simp [ih, hc, hmem]

theorem cut_of_not_mem {sep : Char} {cs : List Char} (h : sep ∉ cs) : cut sep cs = (cs, none) := by
  induction cs with
  | nil => rfl
  | cons c cs ih =>
    rw [List.mem_cons, not_or] at h
    rw [cut, if_neg (Ne.symm h.1), ih h.2]

theorem cut_append_cons {sep : Char} {cs : List Char} (h : sep ∉ cs) (ds : List Char) :
    cut sep (cs ++ sep :: ds) = (cs, some ds) := by
  induction cs with
  | nil => rw [List.nil_append, cut, if_pos rfl]
  | cons c cs ih =>
    rw [List.mem_cons, not_or] at h
    rw [List.cons_append, cut, if_neg (Ne.symm h.1), ih h.2]

/-- A text is what stands before the first separator, the separator and
what stands behind it. -/
theorem eq_of_cut {sep : Char} {cs before behind : List Char}
    (h : cut sep cs = (before, some behind)) : cs = before ++ sep :: behind := by
  induction cs generalizing before with
  | nil => cases h
  | cons c cs ih =>
    rw [cut] at h
    split at h
    · rename_i hc
      cases h
      rw [hc]
      rfl
    · obtain ⟨hbefore, hbehind⟩ := Prod.mk.inj h
      rw [← hbefore, List.cons_append, ← ih (Prod.ext rfl hbehind)]

end TypedTraffic.Text
