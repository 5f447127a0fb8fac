/-!
# Lists as ordered sets and maps

Where an answer shows the order in which things were first seen, a set
is a list without repetitions and a map is a list of pairs: a value put
under a key that is there replaces the earlier one in its place, under
another key it comes last.
-/

namespace TypedTraffic.Ordered

variable {α β : Type} [DecidableEq α]

/-- **A list without its repetitions**: each element where it first
occurs. -/
def distinct : List α → List α
  | [] => []
  | x :: xs => x :: (distinct xs).filter (· ≠ x)

/-- **Put a value under a key.** -/
def put (key : α) (value : β) : List (α × β) → List (α × β)
  | [] => [(key, value)]
  | pair :: pairs =>
    if pair.1 = key then (key, value) :: pairs else pair :: put key value pairs

/-- The value of a key is the first one under it. -/
theorem lookup_cons {γ : Type} [BEq γ] [LawfulBEq γ] [DecidableEq γ] (key : γ) (pair : γ × β)
    (pairs : List (γ × β)) :
    List.lookup key (pair :: pairs) = if key = pair.1 then some pair.2 else pairs.lookup key := by
  obtain ⟨first, value⟩ := pair
  rw [List.lookup_cons]
  by_cases h : key = first
  · rw [if_pos h, beq_iff_eq.mpr h]
  · rw [if_neg h, beq_eq_false_iff_ne.mpr h]

/-- Nothing is put into a map but what is put there. -/
theorem mem_put {key : α} {value : β} {pairs : List (α × β)} {p : α × β}
    (h : p ∈ put key value pairs) : p = (key, value) ∨ p ∈ pairs := by
  induction pairs with
  | nil => exact Or.inl (List.mem_singleton.mp h)
  | cons q qs ih =>
    rw [put] at h
    split at h
    · rcases List.mem_cons.mp h with rfl | h
      · exact Or.inl rfl
      · exact Or.inr (List.mem_cons_of_mem _ h)
    · rcases List.mem_cons.mp h with rfl | h
      · exact Or.inr List.mem_cons_self
      · exact (ih h).imp_right (List.mem_cons_of_mem _)

/-- The keys of a map with a value put into it: a new key comes last. -/
theorem map_fst_put (key : α) (value : β) (pairs : List (α × β)) :
    (put key value pairs).map Prod.fst
      = if key ∈ pairs.map Prod.fst then pairs.map Prod.fst else pairs.map Prod.fst ++ [key] := by
  induction pairs with
  | nil => rfl
  | cons q qs ih =>
    rw [put]
    by_cases hq : q.1 = key
    · rw [if_pos hq, if_pos (by simp [hq]), List.map_cons, List.map_cons, hq]
    · rw [if_neg hq, List.map_cons, List.map_cons, ih]
      by_cases hkey : key ∈ qs.map Prod.fst
      · rw [if_pos hkey, if_pos (List.mem_cons_of_mem _ hkey)]
      · rw [if_neg hkey, if_neg (by simpa [Ne.symm hq] using hkey), List.cons_append]

/-- **A map stays one** when a value is put into it. -/
theorem nodup_put {key : α} {value : β} {pairs : List (α × β)}
    (h : (pairs.map Prod.fst).Nodup) : ((put key value pairs).map Prod.fst).Nodup := by
  rw [map_fst_put]
  split
  · exact h
  · rename_i hkey
    refine List.nodup_append.mpr ⟨h, by simp, fun k hk l hl heq => hkey ?_⟩
    rwa [← List.mem_singleton.mp hl, ← heq]

theorem mem_distinct {x : α} {xs : List α} : x ∈ distinct xs ↔ x ∈ xs := by
  induction xs with
  | nil => simp [distinct]
  | cons y ys ih =>
    by_cases h : x = y
    · simp [distinct, h]
    · simp [distinct, h, ih]

theorem nodup_distinct (xs : List α) : (distinct xs).Nodup := by
  induction xs with
  | nil => simp [distinct]
  | cons y ys ih =>
    refine List.nodup_cons.mpr ⟨?_, ih.filter _⟩
    simp

/-- **What a list adds** to the elements in front of it is what is new
there. -/
theorem distinct_append (xs ys : List α) :
    distinct (xs ++ ys) = distinct xs ++ (distinct ys).filter (· ∉ xs) := by
  induction xs with
  | nil => exact (List.filter_eq_self.mpr fun y _ => by simp).symm
  | cons x xs ih =>
    rw [List.cons_append, distinct, distinct, ih, List.filter_append, List.filter_filter,
      List.cons_append]
    refine congrArg (fun zs => x :: (_ ++ zs)) (List.filter_congr fun y _ => ?_)
    simp

/-- An element behind a list is new, or it is there already. -/
theorem distinct_concat (xs : List α) (x : α) :
    distinct (xs ++ [x]) = if x ∈ xs then distinct xs else distinct xs ++ [x] := by
  rw [distinct_append]
  by_cases hx : x ∈ xs <;> simp [distinct, hx]

/-- **The keys of a map that is put together** are those that are put, in
order of first appearance. -/
theorem map_fst_foldl_put {γ : Type} (key : γ → α) (value : γ → β) (xs : List γ) :
    (xs.foldl (fun pairs x => put (key x) (value x) pairs) []).map Prod.fst
      = distinct (xs.map key) := by
  have hfold : ∀ (xs done : List γ) (pairs : List (α × β)),
      pairs.map Prod.fst = distinct (done.map key) →
        (xs.foldl (fun pairs x => put (key x) (value x) pairs) pairs).map Prod.fst
          = distinct ((done ++ xs).map key) := by
    intro xs
    induction xs with
    | nil => exact fun done pairs h => by rwa [List.append_nil]
    | cons x xs ih =>
      intro done pairs h
      have hstep := ih (done ++ [x]) (put (key x) (value x) pairs) (by
        rw [map_fst_put, h, List.map_append, List.map_cons, List.map_nil, distinct_concat]
        simp only [mem_distinct])
      rwa [List.append_assoc] at hstep
  exact hfold xs [] [] rfl

/-- Repetitions are those of the elements, if different elements have
different images. -/
theorem distinct_map {γ : Type} [DecidableEq γ] {f : α → γ} {xs : List α}
    (hf : ∀ x ∈ xs, ∀ y ∈ xs, f x = f y → x = y) :
    distinct (xs.map f) = (distinct xs).map f := by
  induction xs with
  | nil => rfl
  | cons x xs ih =>
    have hrest : ∀ y ∈ xs, ∀ z ∈ xs, f y = f z → y = z := fun y hy z hz =>
      hf y (List.mem_cons_of_mem _ hy) z (List.mem_cons_of_mem _ hz)
    rw [List.map_cons, distinct, distinct, ih hrest, List.filter_map, List.map_cons]
    refine congrArg (fun ys => f x :: ys.map f) (List.filter_congr fun y hy => ?_)
    have hy' : y ∈ x :: xs := List.mem_cons_of_mem _ (mem_distinct.mp hy)
    rw [Function.comp_apply, decide_eq_decide]
    exact not_congr ⟨hf y hy' x List.mem_cons_self, fun h => h ▸ rfl⟩

/-- **A list that is repeated** adds nothing. -/
theorem distinct_append_append_self (xs ys zs : List α) :
    distinct (xs ++ (ys ++ (ys ++ zs))) = distinct (xs ++ (ys ++ zs)) := by
  have hself : (distinct ys).filter (· ∉ ys) = [] := by
    rw [List.filter_eq_nil_iff]
    intro y hy
    simpa using mem_distinct.mp hy
  have hrepeat : distinct (ys ++ (ys ++ zs)) = distinct (ys ++ zs) := by
    rw [distinct_append ys (ys ++ zs), distinct_append ys zs, List.filter_append, hself,
      List.nil_append, List.filter_filter]
    simp only [Bool.and_self]
  rw [distinct_append xs, distinct_append xs, hrepeat]

end TypedTraffic.Ordered
