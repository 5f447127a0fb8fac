import TypedTraffic.Proofs.Shape.Conforming
import TypedTraffic.Sample

/-!
# Samples conform to their definitions

A JSON object conforms to the definition it leads to (`admits_ofObject`)
if the objects that are merged on the way agree in kinds, and if the
fingerprints tell apart the lists of fields that are met.
-/

namespace TypedTraffic.Sample

open Naming

/-- The lists of fields that the layout of a JSON object comes across. -/
def listsMet (name : String) (object : Object) (names : FieldNames) : List (List Field) :=
  match Shape.fieldsOfSample object with
  | .error _ => []
  | .ok fields =>
    (Layout.mk name
      (names.nameFields (Shape.keysOfFields fields)).fieldName).listsOfFields fields []

/-- **A JSON object conforms to the definition it leads to**, with the
names of fields read back to keys. -/
theorem admits_ofObject {names : FieldNames} (h : names.Reachable) (name : String)
    {object : Object} (hkeyed : (Json.object object).Keyed)
    (hkinds : ∀ os, Shape.Visits object (.objects os) → Shape.AgreeInKinds os)
    (hlists : Layout.ToldApart (listsMet name object names)) :
    (ofObject name object names).definition.Admits (ofObject name object names).names.sourceOf?
      (.object object) := by
  unfold listsMet at hlists
  unfold ofObject
  cases hshape : Shape.fieldsOfSample object with
  | error e => exact trivial
  | ok fields =>
    rw [hshape] at hlists
    exact Layout.definition_admits hlists (fun k hk => h.sourceOf?_fieldName hk)
      (Shape.record_fits_sample hkeyed hkinds hshape)

/-- An item with a tag. -/
def taggedItem : Object :=
  [(codePoints "id", .number (.whole 1)), (codePoints "tag", .string (codePoints "new"))]

/-- An item of which nothing is known. -/
def blankItem : Object := [(codePoints "id", .null)]

/-- A list of two items. -/
def twoItems : Object :=
  [(codePoints "items", .array [.object taggedItem, .object blankItem])]

/-- What the walk over two items looks at together. -/
def TwoItemsPlace : Shape.Place → Prop
  | .values vs => vs ∈ [[], [.array [.object taggedItem, .object blankItem]],
      [.number (.whole 1), .null], [.string (codePoints "new")]]
  | .elements es => es = [.object taggedItem, .object blankItem]
  | .objects os => os = [twoItems] ∨ os = [taggedItem, blankItem]

theorem values_twoItems {os : List Object} (h : TwoItemsPlace (.objects os)) (key : SourceName) :
    TwoItemsPlace (.values (Shape.valuesUnder key os)) := by
  by_cases hkey : key ∈ os.flatMap fun o => o.map Prod.fst
  · rcases h with rfl | rfl
    · have hk : key = codePoints "items" := by simpa [twoItems] using hkey
      rw [hk]
      exact List.mem_cons_of_mem _ List.mem_cons_self
    · have hk : key = codePoints "id" ∨ key = codePoints "tag" := by
        simpa [taggedItem, blankItem, or_comm, or_left_comm] using hkey
      rcases hk with rfl | rfl
      · exact List.mem_cons_of_mem _ (List.mem_cons_of_mem _ List.mem_cons_self)
      · exact List.mem_cons_of_mem _ (List.mem_cons_of_mem _ (List.mem_cons_of_mem _
          List.mem_cons_self))
  · rw [Shape.valuesUnder_eq_nil hkey]
    exact List.mem_cons_self

theorem visits_twoItems {p : Shape.Place} (h : Shape.Visits twoItems p) : TwoItemsPlace p := by
  induction h with
  | root => exact Or.inl rfl
  | member key _ ih => exact values_twoItems ih key
  | lists _ hfirst hkind ih =>
    simp only [TwoItemsPlace, List.mem_cons, List.not_mem_nil, or_false] at ih
    rcases ih with rfl | rfl | rfl | rfl <;> cases hfirst <;> first | rfl | cases hkind
  | records _ hfirst hkind ih =>
    simp only [TwoItemsPlace, List.mem_cons, List.not_mem_nil, or_false] at ih
    rcases ih with rfl | rfl | rfl | rfl <;> cases hfirst <;> cases hkind
  | nested _ hkind ih =>
    cases ih
    cases hkind
  | items _ _ ih =>
    cases ih
    exact Or.inr rfl

theorem keyed_twoItems : (Json.object twoItems).Keyed := by
  have hitem : ∀ v, v = Json.object taggedItem ∨ v = Json.object blankItem → v.Keyed := by
    rintro v (rfl | rfl)
    · refine Json.Keyed.object (by decide) fun m hm => ?_
      rcases List.mem_pair.mp hm with rfl | rfl
      · exact Json.Keyed.number _
      · exact Json.Keyed.string _
    · refine Json.Keyed.object (by decide) fun m hm => ?_
      rw [List.mem_singleton.mp hm]
      exact Json.Keyed.null
  refine Json.Keyed.object (by decide) fun m hm => ?_
  rw [List.mem_singleton.mp hm]
  exact Json.Keyed.array fun v hv => hitem v (List.mem_pair.mp hv)

/-- Two items conform to the definition they lead to, in which the tag of
an item is optional. -/
theorem admits_ofObject_twoItems :
    (ofObject "Root" twoItems Table.empty).definition.text
        = "interface Root \x7b\n  items: RootItems[];\n\x7d\n\n"
          ++ "interface RootItems \x7b\n  id: number;\n  tag?: string;\n\x7d"
      ∧ (ofObject "Root" twoItems Table.empty).definition.Admits
          (ofObject "Root" twoItems Table.empty).names.sourceOf? (.object twoItems) := by
  have hlists : Layout.ToldApart (listsMet "Root" twoItems Table.empty) := by
    unfold Layout.ToldApart
    decide +kernel
  refine ⟨by decide +kernel, admits_ofObject .empty "Root" keyed_twoItems (fun os hos => ?_) hlists⟩
  intro key v hv w hw hvnull hwnull
  have hplace := values_twoItems (visits_twoItems hos) key
  simp only [TwoItemsPlace, List.mem_cons, List.not_mem_nil, or_false] at hplace
  rcases hplace with h | h | h | h <;> rw [h] at hv hw <;>
    simp only [List.mem_cons, List.not_mem_nil, or_false] at hv hw
  · rw [hv, hw]
  · rcases hv with rfl | rfl
    · rcases hw with rfl | rfl
      · rfl
      · exact absurd rfl hwnull
    · exact absurd rfl hvnull
  · rw [hv, hw]

end TypedTraffic.Sample
