import TypedTraffic.Proofs.Shape.Conforming

/-!
# Interfaces and the objects that are merged into them

A record of a shape is made of objects that are merged: it has their keys,
in order of first appearance, and a key is optional exactly if one of the
objects lacks it (`merges_of_fieldsOf`). This is so of every record of the
shape of a sample, and the objects are those that the walk gets to
together (`recorded_fieldsOfSample`).

An interface is laid out from a record, with the names of the keys and
what is optional as they are in the record, and an auxiliary interface is
named after the key that its record stands under
(`Layout.made_definition`). So behind every interface of a sample are
objects of the sample that are merged into it.
-/

namespace TypedTraffic

open Naming

namespace Shape

/-- The keys of several objects, in order of first appearance. -/
def keysAmong (os : List Object) : List SourceName :=
  Ordered.distinct (os.flatMap fun o => o.map Prod.fst)

/-- **Whether a key is missing** from one of several objects. -/
def missing (os : List Object) (key : SourceName) : Bool :=
  decide (∃ o ∈ os, key ∉ o.map Prod.fst)

/-- **A record that objects are merged into**: it has their keys, and
those that one of the objects lacks are optional. -/
def Merges (os : List Object) (fields : List (SourceName × Bool × Shape)) : Prop :=
  fields.map (fun f => (f.1, f.2.1)) = (keysAmong os).map fun key => (key, missing os key)

/-- A key that every object has has a value for each of them. -/
theorem length_le_valuesUnder {key : SourceName} {os : List Object}
    (h : ∀ o ∈ os, key ∈ o.map Prod.fst) : os.length ≤ (valuesUnder key os).length := by
  induction os with
  | nil => exact Nat.le_refl 0
  | cons o os ih =>
    obtain ⟨m, hm, hkey⟩ := List.mem_map.mp (h o List.mem_cons_self)
    have hone : 0 < (o.filter fun m => m.1 = key).length :=
      List.length_pos_of_mem (List.mem_filter.mpr ⟨hm, by simpa using hkey⟩)
    have hrest := ih fun q hq => h q (List.mem_cons_of_mem _ hq)
    rw [length_valuesUnder_cons, List.length_cons]
    omega

/-- **A key has fewer values than there are objects** exactly if one of
them lacks it. -/
theorem length_valuesUnder_lt_iff (key : SourceName) {os : List Object}
    (hkeyed : ∀ o ∈ os, (o.map Prod.fst).Nodup) :
    (valuesUnder key os).length < os.length ↔ ∃ o ∈ os, key ∉ o.map Prod.fst := by
  constructor
  · intro hlt
    by_contra hnone
    have hall : ∀ o ∈ os, key ∈ o.map Prod.fst := fun o ho => by
      by_contra hkey
      exact hnone ⟨o, ho, hkey⟩
    exact absurd hlt (Nat.not_lt_of_le (length_le_valuesUnder hall))
  · rintro ⟨o, ho, hkey⟩
    exact length_valuesUnder_lt hkeyed ho fun v hv =>
      hkey (List.mem_map_of_mem (f := Prod.fst) hv)

/-- The keys of a record, in order, and which of them are optional. -/
theorem map_fieldsOf {shapeOf : List Json → Result Shape} {count : Nat}
    {groups : List (SourceName × List Json)} {fields : List (SourceName × Bool × Shape)}
    (h : fieldsOf shapeOf count groups = .ok fields) :
    fields.map (fun f => (f.1, f.2.1))
      = groups.map fun g => (g.1, decide (g.2.length < count)) := by
  induction groups generalizing fields with
  | nil =>
    cases h
    rfl
  | cons group groups ih =>
    rcases group with ⟨key, values⟩
    rw [fieldsOf] at h
    split at h
    · cases h
    · split at h
      · cases h
      · rename_i rest hrest
        cases h
        rw [List.map_cons, List.map_cons, ih hrest]

/-- **Merged objects make a record** of their keys. -/
theorem merges_of_fieldsOf {shapeOf : List Json → Result Shape} {os : List Object}
    (hkeyed : ∀ o ∈ os, (o.map Prod.fst).Nodup) {fields : List (SourceName × Bool × Shape)}
    (h : fieldsOf shapeOf os.length (valuesByKey os) = .ok fields) : Merges os fields := by
  rw [Merges, map_fieldsOf h, valuesByKey, List.map_map]
  refine List.map_congr_left fun key _ => ?_
  simp only [Function.comp_apply, missing, length_valuesUnder_lt_iff key hkeyed]

/-- Merged objects have a record for their shape, at the cost of two
levels of the budget. -/
theorem exists_of_ofObjects {budget : Nat} {os : List Object} {s : Shape}
    (h : ofObjects budget os = .ok s) :
    ∃ b fields, budget = b + 2 ∧ fieldsOf (ofValues b) os.length (valuesByKey os) = .ok fields
      ∧ s = .record fields := by
  rcases budget with _ | _ | b
  · cases h
  · cases h
  · rw [ofObjects] at h
    obtain ⟨fields, hfields, rfl⟩ := exists_of_map_eq_ok h
    exact ⟨b, fields, rfl, hfields, rfl⟩

/-! ## All records of a shape -/

/-- **A property of all records of a shape**, each with the key it stands
under, where the shape stands under a key. -/
inductive AllRecords (P : SourceName → List (SourceName × Bool × Shape) → Prop) :
    SourceName → Shape → Prop
  /-- Nothing is known. -/
  | any (key : SourceName) : AllRecords P key .any
  /-- Truth values. -/
  | boolean (key : SourceName) : AllRecords P key .boolean
  /-- Numbers. -/
  | number (key : SourceName) : AllRecords P key .number
  /-- Strings. -/
  | string (key : SourceName) : AllRecords P key .string
  /-- Lists, whose elements stand under the key of the list. -/
  | array {key : SourceName} {element : Shape} :
    AllRecords P key element → AllRecords P key (.array element)
  /-- The record itself, and those inside it. -/
  | record {key : SourceName} {fields : List (SourceName × Bool × Shape)} : P key fields →
    (∀ f ∈ fields, AllRecords P f.1 f.2.2) → AllRecords P key (.record fields)

/-- **The places under a key** that the walk over an object gets to: the
values of the key in merged objects, and what stands in lists among
them. -/
inductive VisitsUnder (object : Object) : SourceName → Place → Prop
  /-- The values of the key. -/
  | member {os : List Object} (key : SourceName) :
    Visits object (.objects os) → VisitsUnder object key (.values (valuesUnder key os))
  /-- The elements of the lists among them. -/
  | lists {key : SourceName} {vs us : List Json} {v : Json} :
    VisitsUnder object key (.values vs) → nonNull vs = v :: us → v.kind = .array →
      VisitsUnder object key (.elements (elementsAmong (v :: us)))
  /-- The objects among them. -/
  | records {key : SourceName} {vs us : List Json} {v : Json} :
    VisitsUnder object key (.values vs) → nonNull vs = v :: us → v.kind = .object →
      VisitsUnder object key (.objects (objectsAmong (v :: us)))
  /-- The elements of elements that are all lists. -/
  | nested {key : SourceName} {es : List Json} :
    VisitsUnder object key (.elements es) → commonKind? es = some .array →
      VisitsUnder object key (.elements (elementsAmong es))
  /-- Elements that are all objects. -/
  | items {key : SourceName} {es : List Json} :
    VisitsUnder object key (.elements es) → commonKind? es = some .object →
      VisitsUnder object key (.objects (objectsAmong es))

theorem VisitsUnder.visits {object : Object} {key : SourceName} {p : Place}
    (h : VisitsUnder object key p) : Visits object p := by
  induction h with
  | member key hos => exact hos.member key
  | lists _ hfirst hkind ih => exact ih.lists hfirst hkind
  | records _ hfirst hkind ih => exact ih.records hfirst hkind
  | nested _ hkind ih => exact ih.nested hkind
  | items _ hkind ih => exact ih.items hkind

/-- **A record of a sample under a key**: objects that the walk gets to
together there are merged into it. -/
def Recorded (object : Object) (key : SourceName) (fields : List (SourceName × Bool × Shape)) :
    Prop :=
  ∃ os, VisitsUnder object key (.objects os) ∧ Merges os fields

section Walk

variable {object : Object} (hkeyed : (Json.object object).Keyed)

include hkeyed

/-- Objects that the walk gets to hold no key twice. -/
theorem Visits.nodup_keys {os : List Object} (h : Visits object (.objects os)) :
    ∀ o ∈ os, (o.map Prod.fst).Nodup := by
  intro o ho
  cases h.keyed hkeyed o ho with
  | object hnodup _ => exact hnodup

/-- The records inside one that merged objects make are records of the
sample, if this is so of the shapes of its values. -/
theorem recorded_of_fieldsOf {shapeOf : List Json → Result Shape} {os : List Object}
    (hv : Visits object (.objects os))
    (hshape : ∀ {key vs s}, VisitsUnder object key (.values vs) → shapeOf vs = .ok s →
      AllRecords (Recorded object) key s)
    {fields : List (SourceName × Bool × Shape)}
    (h : fieldsOf shapeOf os.length (valuesByKey os) = .ok fields) :
    Merges os fields ∧ ∀ f ∈ fields, AllRecords (Recorded object) f.1 f.2.2 := by
  refine ⟨merges_of_fieldsOf (hv.nodup_keys hkeyed) h, fun f hf => ?_⟩
  obtain ⟨values, hvalues, -, hs⟩ := (fieldsOf_spec h).1 f hf
  obtain rfl : values = valuesUnder f.1 os := (mem_valuesByKey.mp hvalues).2
  exact hshape (VisitsUnder.member f.1 hv) hs

/-- **All records of the walk are records of the sample**, in all three of
its parts. The induction is on the budget. -/
theorem walk_allRecords (budget : Nat) :
    (∀ {key vs s}, VisitsUnder object key (.values vs) → ofValues budget vs = .ok s →
        AllRecords (Recorded object) key s)
      ∧ (∀ {key es s}, VisitsUnder object key (.elements es) → ofElements budget es = .ok s →
          AllRecords (Recorded object) key s)
      ∧ ∀ {key os s}, VisitsUnder object key (.objects os) → ofObjects budget os = .ok s →
          AllRecords (Recorded object) key s := by
  induction budget using Nat.strongRecOn with
  | ind budget ih =>
    refine ⟨fun {key vs s} hv h => ?_, fun {key es s} hv h => ?_, fun {key os s} hv h => ?_⟩
    · cases budget with
      | zero => cases h
      | succ b =>
        obtain ⟨-, helements, hobjects⟩ := ih b (Nat.lt_succ_self b)
        rw [ofValues] at h
        split at h
        · cases h
          exact AllRecords.any key
        · rename_i v us hfirst
          split at h
          · cases h
            exact AllRecords.any key
          · cases h
            exact AllRecords.boolean key
          · cases h
            exact AllRecords.number key
          · cases h
            exact AllRecords.string key
          · rename_i hk
            obtain ⟨element, helement, rfl⟩ := exists_of_map_eq_ok h
            exact AllRecords.array (helements (hv.lists hfirst hk) helement)
          · rename_i hk
            exact hobjects (hv.records hfirst hk) h
    · cases budget with
      | zero => cases h
      | succ b =>
        obtain ⟨-, helements, hobjects⟩ := ih b (Nat.lt_succ_self b)
        rw [ofElements] at h
        split at h
        · cases h
          exact AllRecords.any key
        · cases h
          exact AllRecords.any key
        · cases h
          exact AllRecords.boolean key
        · cases h
          exact AllRecords.number key
        · cases h
          exact AllRecords.string key
        · rename_i hk
          obtain ⟨element, helement, rfl⟩ := exists_of_map_eq_ok h
          exact AllRecords.array (helements (hv.nested hk) helement)
        · rename_i hk
          exact hobjects (hv.items hk) h
    · obtain ⟨b, fields, rfl, hfields, rfl⟩ := exists_of_ofObjects h
      obtain ⟨hvalues, -, -⟩ := ih b (by omega)
      obtain ⟨hmerges, hinside⟩ := recorded_of_fieldsOf hkeyed hv.visits hvalues hfields
      exact AllRecords.record ⟨os, hv, hmerges⟩ hinside

/-- **The shape of a sample** is a record of the sample alone, and all
records inside it are records of the sample. -/
theorem recorded_fieldsOfSample {fields : List (SourceName × Bool × Shape)}
    (h : fieldsOfSample object = .ok fields) :
    Merges [object] fields ∧ ∀ f ∈ fields, AllRecords (Recorded object) f.1 f.2.2 :=
  recorded_of_fieldsOf hkeyed Visits.root (walk_allRecords hkeyed walkBudget).1 h

end Walk

end Shape

namespace Layout

open Shape

/-- **A list of fields that a record is laid out as**: the names of the
keys, and what is optional as it is in the record. -/
def LaidOutAs (l : Layout) (fields : List (SourceName × Bool × Shape)) (fs : List Field) : Prop :=
  fs.map (fun f => (f.name, f.optional)) = fields.map fun f => (l.fieldName f.1, f.2.1)

/-- **An auxiliary interface that is made of a record** with the given
property, whose keys are among the given ones. It is named after the key
that the record stands under. -/
def Made (l : Layout) (P : SourceName → List (SourceName × Bool × Shape) → Prop)
    (keys : List SourceName) (auxiliary : List Interface) (i : Interface) : Prop :=
  ∃ key fields earlier, P key fields ∧ (∀ f ∈ fields, f.1 ∈ keys) ∧ l.LaidOutAs fields i.fields
    ∧ earlier ++ [i] <+: auxiliary ∧ i.name = l.auxiliaryName key earlier

theorem laidOutAs_fieldsOf (l : Layout) (fields : List (SourceName × Bool × Shape))
    (declared : List Interface) : l.LaidOutAs fields (l.fieldsOf fields declared).1 := by
  induction fields generalizing declared with
  | nil => rfl
  | cons field fields ih =>
    exact congrArg ((l.fieldName field.1, field.2.1) :: ·)
      (ih (l.typeOf field.1 field.2.2 declared).2)

section Made

variable {l : Layout} {P : SourceName → List (SourceName × Bool × Shape) → Prop}
  {keys : List SourceName}

theorem Made.mono {declared declared' : List Interface} {i : Interface}
    (h : l.Made P keys declared i) (hp : declared <+: declared') : l.Made P keys declared' i := by
  obtain ⟨key, fields, earlier, hP, hkeys, hlaid, hearlier, hname⟩ := h
  exact ⟨key, fields, earlier, hP, hkeys, hlaid, hearlier.trans hp, hname⟩

/-- The interface that a record is declared as is made of it. -/
theorem made_declare {declared : List Interface} (hdeclared : ∀ i ∈ declared, l.Made P keys declared i)
    {key : SourceName} {fields : List (SourceName × Bool × Shape)} {fs : List Field}
    (hP : P key fields) (hkeys : ∀ f ∈ fields, f.1 ∈ keys) (hlaid : l.LaidOutAs fields fs) :
    ∀ i ∈ (l.declare key fs declared).2, l.Made P keys (l.declare key fs declared).2 i := by
  rcases declare_eq l key fs declared with ⟨_, -, -, heq⟩ | heq
  · rw [heq]
    exact hdeclared
  · rw [heq]
    intro i hi
    rcases List.mem_append.mp hi with hi | hi
    · exact (hdeclared i hi).mono (List.prefix_append _ _)
    · rw [List.mem_singleton.mp hi]
      exact ⟨key, fields, declared, hP, hkeys, hlaid, List.prefix_rfl, rfl⟩

mutual

/-- **The type of a shape declares interfaces of its records.** -/
theorem made_typeOf {declared : List Interface}
    (hdeclared : ∀ i ∈ declared, l.Made P keys declared i) (key : SourceName) (shape : Shape)
    (hrecords : AllRecords P key shape) (hkeys : ∀ k ∈ shape.keys, k ∈ keys) :
    ∀ i ∈ (l.typeOf key shape declared).2, l.Made P keys (l.typeOf key shape declared).2 i := by
  cases shape with
  | any => exact hdeclared
  | boolean => exact hdeclared
  | number => exact hdeclared
  | string => exact hdeclared
  | array element =>
    cases hrecords with
    | array helement => exact made_typeOf hdeclared key element helement hkeys
  | record fields =>
    cases hrecords with
    | record hP hinside =>
      exact made_declare (made_fieldsOf hdeclared fields hinside hkeys) hP
        (fun f hf => hkeys _ (mem_keys_of_mem hf)) (laidOutAs_fieldsOf l fields declared)

/-- The fields of a record declare interfaces of the records inside it. -/
theorem made_fieldsOf {declared : List Interface}
    (hdeclared : ∀ i ∈ declared, l.Made P keys declared i)
    (fields : List (SourceName × Bool × Shape))
    (hrecords : ∀ f ∈ fields, AllRecords P f.1 f.2.2)
    (hkeys : ∀ k ∈ keysOfFields fields, k ∈ keys) :
    ∀ i ∈ (l.fieldsOf fields declared).2, l.Made P keys (l.fieldsOf fields declared).2 i := by
  cases fields with
  | nil => exact hdeclared
  | cons field fields =>
    rw [keysOfFields] at hkeys
    have hfirst := made_typeOf hdeclared field.1 field.2.2 (hrecords field List.mem_cons_self)
      fun k hk => hkeys k (List.mem_cons_of_mem _ (List.mem_append_left _ hk))
    exact made_fieldsOf hfirst fields (fun f hf => hrecords f (List.mem_cons_of_mem _ hf))
      fun k hk => hkeys k (List.mem_cons_of_mem _ (List.mem_append_right _ hk))

end

end Made

/-- **The definition of a record** is made of it and of the records inside
it. -/
theorem made_definition (l : Layout) {P : SourceName → List (SourceName × Bool × Shape) → Prop}
    {fields : List (SourceName × Bool × Shape)}
    (hrecords : ∀ f ∈ fields, AllRecords P f.1 f.2.2) :
    ∃ root auxiliary, l.definition fields = .interfaces root auxiliary
      ∧ root.name = l.root ∧ l.LaidOutAs fields root.fields
      ∧ ∀ i ∈ auxiliary, l.Made P (keysOfFields fields) auxiliary i :=
  ⟨⟨l.root, (l.fieldsOf fields []).1⟩, (l.fieldsOf fields []).2, rfl, rfl,
    laidOutAs_fieldsOf l fields [],
    made_fieldsOf (fun _ hi => absurd hi List.not_mem_nil) fields hrecords fun _ hk => hk⟩

end Layout

end TypedTraffic
