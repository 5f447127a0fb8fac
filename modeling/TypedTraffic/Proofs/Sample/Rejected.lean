import TypedTraffic.Proofs.Sample.Reading
import TypedTraffic.Proofs.Shape.Depth

/-!
# What a rejected sample leaves behind

A sample is rejected if it leads to an alias. It is rejected before
anything is named, with one exception: an object is named while it is
walked over, and if it is nested too deeply, the keys that were met have
their names already (`traces_infer`). Names that were there before stay in
any case.

So an object that is nested too deeply can change the name of a field of a
later sample (`names_infer_deeplyNested`).
-/

namespace TypedTraffic.Sample

open Naming

/-- **A sample whose root is an object.** -/
inductive HasMembers : Payload → Object → Prop
  /-- An object. -/
  | value (members : Object) : HasMembers (.value (.object members)) members
  /-- The text of an object. -/
  | text {source : String} {members : Object} :
    Json.parse source = .ok (.object members) → HasMembers (.text source) members

/-- **The traces of a rejected sample** in the names of fields. -/
structure Traces (name : String) (payload : Payload) (names : FieldNames) (i : Inference) :
    Prop where
  /-- There are none, unless the sample is nested too deeply. -/
  none : i.notice ≠ some (.nestedTooDeeply name) → i.names = names
  /-- A sample that is nested too deeply is an object, and keys of it that
  were met before the budget ran out are named. -/
  met : i.notice = some (.nestedTooDeeply name) →
    ∃ members e, HasMembers payload members ∧ Shape.fieldsOfSample members = .error e
      ∧ i.names = names.nameFields e.met ∧ ∀ key ∈ e.met, Shape.Meets members key
  /-- What has a name keeps it. -/
  kept : ∀ key field, names.find? key = some field → i.names.find? key = some field

section Traces

variable {name : String} {payload : Payload} {names : FieldNames}

/-- Nothing is named for a sample that is rejected at once. -/
theorem traces_of_eq {i : Inference} (h : i.names = names)
    (hnotice : i.notice ≠ some (.nestedTooDeeply name)) : Traces name payload names i where
  none _ := h
  met hdeep := absurd hdeep hnotice
  kept key field hfield := by rwa [h]

/-- An object that is rejected is nested too deeply. -/
theorem traces_ofObject {members : Object} (hmembers : HasMembers payload members)
    (h : (ofObject name members names).definition.isAlias = true) :
    Traces name payload names (ofObject name members names) := by
  cases hfields : Shape.fieldsOfSample members with
  | ok fields =>
    simp only [ofObject, hfields] at h
    cases h
  | error e =>
    simp only [ofObject, hfields]
    exact ⟨fun hother => absurd rfl hother,
      fun _ => ⟨members, e, hmembers, hfields, rfl, fun _ => Shape.meets_of_mem_met hfields⟩,
      fun key field hfield => FieldNames.find?_nameFields hfield e.met⟩

theorem traces_ofJson {json : Json} (hmembers : ∀ members, json = .object members →
      HasMembers payload members)
    (h : (ofJson name json names).definition.isAlias = true) :
    Traces name payload names (ofJson name json names) := by
  cases json with
  | object members => exact traces_ofObject (hmembers members rfl) h
  | _ => exact traces_of_eq rfl (by simp [ofJson, unknown])

theorem traces_ofText {source : String} (h : (ofText name source names).definition.isAlias = true) :
    Traces name (.text source) names (ofText name source names) := by
  unfold ofText at h ⊢
  cases hparse : Json.parse source with
  | ok json =>
    simp only [hparse] at h
    exact traces_ofJson (fun members hjson => .text (hjson ▸ hparse)) h
  | error e =>
    simp only [hparse] at h
    cases hform : formInterface .strict name source names with
    | ok answer =>
      simp only [hform] at h
      cases h
    | error _ => exact traces_of_eq rfl (by simp [unknown])

theorem traces_ofForm (h : (ofForm name payload names).definition.isAlias = true) :
    Traces name payload names (ofForm name payload names) := by
  cases payload with
  | value json => exact traces_of_eq rfl (by simp [ofForm, unknown])
  | text source =>
    unfold ofForm at h ⊢
    dsimp only at h ⊢
    cases hform : formInterface .lenient name source names with
    | ok answer =>
      simp only [hform] at h
      cases h
    | error _ => exact traces_of_eq rfl (by simp)

end Traces

/-- **What a rejected sample leaves behind**: nothing, unless it is nested
too deeply, and then the names of keys that were met in it. -/
theorem traces_infer {name : String} {payload : Payload} {mime : Option String}
    {names : FieldNames} (h : (infer name payload mime names).definition.isAlias = true) :
    Traces name payload names (infer name payload mime names) := by
  unfold infer at h ⊢
  by_cases hmime : isFormMimeType mime = true
  · rw [if_pos hmime] at h ⊢
    exact traces_ofForm h
  · rw [if_neg hmime] at h ⊢
    cases payload with
    | text source => exact traces_ofText h
    | value json =>
      refine traces_ofJson (fun members hjson => ?_) h
      rw [hjson]
      exact HasMembers.value members

/-! ## Nested objects -/

/-- Objects inside one another, each under the same key. -/
def nested (key : SourceName) : Nat → Object
  | 0 => []
  | depth + 1 => [(key, .object (nested key depth))]

theorem valuesByKey_singleton (key : SourceName) (value : Json) :
    Shape.valuesByKey [[(key, value)]] = [(key, [value])] := by
  simp [Shape.valuesByKey, Shape.valuesUnder, Ordered.distinct]

/-- **The walk over nested objects** meets their key again and again until
the budget runs out. -/
theorem ofValues_nested (key : SourceName) (depth : Nat) : ∀ {budget : Nat}, budget ≤ 3 * depth →
    ∃ count, Shape.ofValues budget [.object (nested key depth)]
      = .error ⟨List.replicate count key⟩ := by
  induction depth with
  | zero =>
    intro budget hbudget
    obtain rfl : budget = 0 := Nat.le_zero.mp hbudget
    exact ⟨0, rfl⟩
  | succ depth ih =>
    intro budget hbudget
    match budget, hbudget with
    | 0, _ => exact ⟨0, rfl⟩
    | 1, _ => exact ⟨0, rfl⟩
    | 2, _ => exact ⟨0, rfl⟩
    | b + 3, hbudget =>
      have hrest : b ≤ 3 * depth := by omega
      obtain ⟨count, hcount⟩ := ih hrest
      refine ⟨count + 1, ?_⟩
      have hobjects : Shape.ofValues (b + 3) [.object (nested key (depth + 1))]
          = (Shape.fieldsOf (Shape.ofValues b) 1
              (Shape.valuesByKey [nested key (depth + 1)])).map .record := rfl
      rw [hobjects, nested, valuesByKey_singleton, Shape.fieldsOf, hcount]
      rfl

/-- **Objects that are nested too deeply** have no fields; what is met is
their key. -/
theorem fieldsOfSample_nested (key : SourceName) {depth : Nat}
    (h : Shape.walkBudget ≤ 3 * depth) : ∃ count,
      Shape.fieldsOfSample (nested key (depth + 1)) = .error ⟨List.replicate (count + 1) key⟩ := by
  obtain ⟨count, hcount⟩ := ofValues_nested key depth h
  refine ⟨count, ?_⟩
  rw [Shape.fieldsOfSample, nested, valuesByKey_singleton, Shape.fieldsOf, hcount]
  rfl

/-- Naming one field again and again is naming it once. -/
theorem nameFields_replicate (names : FieldNames) (key : SourceName) (count : Nat) :
    names.nameFields (List.replicate (count + 1) key) = (names.nameField key).2 := by
  rw [List.replicate_succ, FieldNames.nameFields, List.foldl_cons]
  refine FieldNames.nameFields_eq_self fun source hsource => ?_
  rw [(List.mem_replicate.mp hsource).2]
  exact ⟨_, Table.find?_assign_self names key _⟩

/-- **Objects that are nested too deeply** are rejected, and their key is
named. -/
theorem infer_nested (name : String) (key : SourceName) {depth : Nat}
    (h : Shape.walkBudget ≤ 3 * depth) (names : FieldNames) :
    infer name (.value (.object (nested key (depth + 1)))) none names
      = ⟨.alias name .any, some (.nestedTooDeeply name), (names.nameField key).2⟩ := by
  obtain ⟨count, hcount⟩ := fieldsOfSample_nested key h
  have hobject : infer name (.value (.object (nested key (depth + 1)))) none names
      = ofObject name (nested key (depth + 1)) names := by
    rw [infer, if_neg (by decide)]
    rfl
  rw [hobject, ofObject, hcount]
  dsimp only
  rw [nameFields_replicate]
  rfl

/-- A sample of five hundred objects inside one another. -/
def deeplyNested : Payload := .value (.object (nested (codePoints "a") 500))

/-- A sample with one number under a key that asks for the same name. -/
def trackedNumber : Payload := .value (.object [(codePoints "_a", .number (.whole 1))])

/-- The traces of a sample that is nested too deeply are the names of its
keys. -/
theorem traces_infer_deeplyNested :
    (infer "Deep" deeplyNested none Table.empty).definition.isAlias = true
      ∧ Traces "Deep" deeplyNested Table.empty (infer "Deep" deeplyNested none Table.empty) := by
  have halias : (infer "Deep" deeplyNested none Table.empty).definition.isAlias = true := by
    rw [deeplyNested, infer_nested _ _ (by decide)]
    rfl
  exact ⟨halias, traces_infer halias⟩

/-- **A rejected sample can leave a trace**: it leads to an alias, and yet
the names of fields are others after it, and so is the field of a later
sample. -/
theorem names_infer_deeplyNested :
    (infer "Deep" deeplyNested none Table.empty).definition = .alias "Deep" .any
      ∧ (infer "Deep" deeplyNested none Table.empty).names ≠ Table.empty
      ∧ (infer "Next" trackedNumber none Table.empty).definition.text
        = "interface Next \x7b\n  a: number;\n\x7d"
      ∧ (infer "Next" trackedNumber none
            (infer "Deep" deeplyNested none Table.empty).names).definition.text
        = "interface Next \x7b\n  a_1: number;\n\x7d" := by
  rw [deeplyNested, infer_nested _ _ (by decide)]
  refine ⟨rfl, fun h => ?_, by decide +kernel, by decide +kernel⟩
  exact absurd (congrArg Table.entries h) (by decide)

end TypedTraffic.Sample
