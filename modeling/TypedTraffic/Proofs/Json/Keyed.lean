import TypedTraffic.Json.Reader
import TypedTraffic.Proofs.Shape.Fitting

/-!
# No object that is read holds a key twice

A key that stands twice in the text of an object has the value that is
read last, in the place of the first. So a value that is read from a text
is one as a dictionary has it, at every depth (`Json.keyed_of_parse`).
-/

namespace TypedTraffic.Json

/-- **A reader of values as a dictionary has them.** -/
def ReadsKeyed (read : List Char → Step Json) : Prop :=
  ∀ cs v rest, read cs = .ok (v, rest) → v.Keyed

/-! ## Values without parts -/

/-- A number is read as a number. -/
theorem readsKeyed_readNumber : ReadsKeyed readNumber := by
  intro cs v rest h
  unfold readNumber at h
  dsimp only at h
  split at h
  · cases h
  · split at h
    · split at h
      · cases h
      · cases h
        exact Keyed.number _
    · cases h
      exact Keyed.number _

theorem keyed_of_readWord? {cs rest : List Char} {v : Json} {words : List (String × Json)}
    (hwords : ∀ p ∈ words, p.2.Keyed) (h : readWord? cs words = some (v, rest)) : v.Keyed := by
  induction words with
  | nil => cases h
  | cons p words ih =>
    obtain ⟨word, value⟩ := p
    rw [readWord?] at h
    split at h
    · cases h
      exact hwords _ List.mem_cons_self
    · exact ih (fun q hq => hwords q (List.mem_cons_of_mem _ hq)) h

/-- The words of JSON stand for values without parts. -/
theorem keyed_valueWords : ∀ p ∈ valueWords, p.2.Keyed := by
  intro p hp
  simp only [valueWords, List.mem_cons, List.not_mem_nil, or_false] at hp
  rcases hp with rfl | rfl | rfl | rfl | rfl | rfl
  · exact Keyed.null
  · exact Keyed.bool true
  · exact Keyed.bool false
  · exact Keyed.number _
  · exact Keyed.number _
  · exact Keyed.number _

/-! ## Lists and objects -/

section Containers

variable {read : List Char → Step Json} (hread : ReadsKeyed read)

include hread

theorem keyed_of_readItems {rounds : Nat} {done : List Json} {cs rest : List Char} {v : Json}
    (hdone : ∀ w ∈ done, w.Keyed) (h : readItems read rounds done cs = .ok (v, rest)) :
    v.Keyed := by
  induction rounds generalizing done cs with
  | zero => cases h
  | succ rounds ih =>
    rw [readItems] at h
    split at h
    · cases h
    · rename_i item tail hitem
      have hmore : ∀ w ∈ item :: done, w.Keyed := by
        intro w hw
        rcases List.mem_cons.mp hw with rfl | hw
        · exact hread _ _ _ hitem
        · exact hdone w hw
      split at h
      · cases h
        exact Keyed.array fun w hw => hmore w (List.mem_reverse.mp hw)
      · exact ih hmore h
      · cases h

/-- **Members are put under their keys.** -/
theorem keyed_of_readMembers {rounds : Nat} {done : List (List CodePoint × Json)}
    {cs rest : List Char} {v : Json} (hnodup : (done.map Prod.fst).Nodup)
    (hdone : ∀ m ∈ done, m.2.Keyed) (h : readMembers read rounds done cs = .ok (v, rest)) :
    v.Keyed := by
  induction rounds generalizing done cs with
  | zero => cases h
  | succ rounds ih =>
    unfold readMembers at h
    split at h
    · split at h
      · cases h
      · rename_i key tail hkey
        split at h
        · split at h
          · cases h
          · rename_i value more hvalue
            have hmembers : ∀ m ∈ Ordered.put key value done, m.2.Keyed := by
              intro m hm
              rcases Ordered.mem_put hm with rfl | hm
              · exact hread _ _ _ hvalue
              · exact hdone m hm
            split at h
            · cases h
              exact Keyed.object (Ordered.nodup_put hnodup) hmembers
            · exact ih (Ordered.nodup_put hnodup) hmembers h
            · cases h
        · cases h
    · cases h

end Containers

/-! ## Values -/

theorem readsKeyed_readBy {nested : Container → List Char → Step Json}
    (hnested : ∀ container, ReadsKeyed (nested container)) : ReadsKeyed (readBy nested) := by
  intro cs v rest h
  unfold readBy at h
  split at h
  · split at h
    · cases h
    · cases h
      exact Keyed.string _
  · exact hnested _ _ _ _ h
  · exact hnested _ _ _ _ h
  · split at h
    · rename_i hword
      cases h
      exact keyed_of_readWord? keyed_valueWords hword
    · exact readsKeyed_readNumber _ _ _ h

/-- **A value is read as a dictionary has it**, whatever the depth. -/
theorem readsKeyed_readValue (rounds depth : Nat) : ReadsKeyed (readValue rounds depth) := by
  induction depth with
  | zero =>
    refine readsKeyed_readBy fun container cs v rest h => ?_
    cases h
  | succ depth ih =>
    refine readsKeyed_readBy fun container cs v rest h => ?_
    split at h
    · cases h
      exact Keyed.array fun w hw => absurd hw List.not_mem_nil
    · exact keyed_of_readItems ih (fun w hw => absurd hw List.not_mem_nil) h
    · cases h
      exact Keyed.object List.nodup_nil fun m hm => absurd hm List.not_mem_nil
    · have hnodup : (([] : List (List CodePoint × Json)).map Prod.fst).Nodup := List.nodup_nil
      exact keyed_of_readMembers ih hnodup (fun m hm => absurd hm List.not_mem_nil) h

/-- **No object of a document holds a key twice.** -/
theorem keyed_of_parse {text : String} {v : Json} (h : parse text = .ok v) : v.Keyed := by
  unfold parse at h
  split at h
  · rename_i value hdocument
    cases h
    unfold readDocument at hdocument
    split at hdocument
    · cases hdocument
    · split at hdocument
      · cases hdocument
      · rename_i hvalue
        split at hdocument
        · cases hdocument
          exact readsKeyed_readValue _ _ _ _ _ hvalue
        · cases hdocument
  · cases h

end TypedTraffic.Json
