import Mathlib.Data.List.Nodup
import TypedTraffic.Shape.Basic

/-!
# The shape of a sample fits it

A value **fits** a shape when its objects have the keys that are not
optional and no others, and every value in it is of the kind that its
place in the shape has; null fits everywhere, and everything fits where
nothing is known.

The walk over a sample merges objects: the elements of one list, and the
values of one key across objects that are merged themselves. It looks at
the first value of a key only, so its shape fits the sample if, wherever
objects are merged, they agree in the kinds of what they have under one
key (`record_fits_sample`). The merges are those the walk gets to
(`Visits`); the budget of the walk plays no part in them.
-/

namespace TypedTraffic

open Naming

/-- **A value as a dictionary has it**: no object holds a key twice. -/
inductive Json.Keyed : Json → Prop
  /-- Null. -/
  | null : Keyed .null
  /-- Truth values. -/
  | bool (b : Bool) : Keyed (.bool b)
  /-- Numbers. -/
  | number (n : Json.Number) : Keyed (.number n)
  /-- Strings. -/
  | string (s : List CodePoint) : Keyed (.string s)
  /-- Lists. -/
  | array {items : List Json} : (∀ v ∈ items, Keyed v) → Keyed (.array items)
  /-- Objects. -/
  | object {members : Object} : (members.map Prod.fst).Nodup → (∀ m ∈ members, Keyed m.2) →
    Keyed (.object members)

namespace Shape

/-- **A value fits a shape.** -/
inductive Fits : Json → Shape → Prop
  /-- Null says nothing. -/
  | null (shape : Shape) : Fits .null shape
  /-- Nothing is known. -/
  | any (value : Json) : Fits value .any
  /-- Truth values. -/
  | boolean (b : Bool) : Fits (.bool b) .boolean
  /-- Numbers. -/
  | number (n : Json.Number) : Fits (.number n) .number
  /-- Strings. -/
  | string (s : List CodePoint) : Fits (.string s) .string
  /-- A list, whose elements are all of one shape. -/
  | array {items : List Json} {element : Shape} (elements : ∀ v ∈ items, Fits v element) :
    Fits (.array items) (.array element)
  /-- An object with all keys that are not optional, no unknown key, and
  values of the shapes of their keys. -/
  | record {members : Object} {fields : List (SourceName × Bool × Shape)}
    (required : ∀ f ∈ fields, f.2.1 = false → ∃ v, (f.1, v) ∈ members)
    (known : ∀ m ∈ members, ∃ f ∈ fields, f.1 = m.1)
    (values : ∀ m ∈ members, ∀ f ∈ fields, f.1 = m.1 → Fits m.2 f.2.2) :
    Fits (.object members) (.record fields)

/-! ## What the walk gets to -/

/-- A place of the walk: what is looked at together. -/
inductive Place where
  /-- The values of one key. -/
  | values (vs : List Json)
  /-- The elements of one list, or of several lists taken together. -/
  | elements (vs : List Json)
  /-- Objects that are merged. -/
  | objects (os : List Object)

/-- What is looked at together holds no key twice. -/
def Place.Keyed : Place → Prop
  | .values vs => ∀ v ∈ vs, v.Keyed
  | .elements es => ∀ e ∈ es, e.Keyed
  | .objects os => ∀ o ∈ os, (Json.object o).Keyed

/-- The values among some that are not null. -/
def nonNull (values : List Json) : List Json := values.filter (·.kind ≠ .null)

/-- **The places the walk over an object gets to.** -/
inductive Visits (object : Object) : Place → Prop
  /-- The object itself, merged with no other. -/
  | root : Visits object (.objects [object])
  /-- The values of a key across merged objects. -/
  | member {os : List Object} (key : SourceName) :
    Visits object (.objects os) → Visits object (.values (valuesUnder key os))
  /-- The elements of the lists among the values of a key. -/
  | lists {vs us : List Json} {v : Json} :
    Visits object (.values vs) → nonNull vs = v :: us → v.kind = .array →
      Visits object (.elements (elementsAmong (v :: us)))
  /-- The objects among the values of a key. -/
  | records {vs us : List Json} {v : Json} :
    Visits object (.values vs) → nonNull vs = v :: us → v.kind = .object →
      Visits object (.objects (objectsAmong (v :: us)))
  /-- The elements of elements that are all lists. -/
  | nested {es : List Json} :
    Visits object (.elements es) → commonKind? es = some .array →
      Visits object (.elements (elementsAmong es))
  /-- Elements that are all objects. -/
  | items {es : List Json} :
    Visits object (.elements es) → commonKind? es = some .object →
      Visits object (.objects (objectsAmong es))

/-- **Objects that agree in kinds**: all values they hold under one key
are of one kind, null apart. -/
def AgreeInKinds (os : List Object) : Prop :=
  ∀ key, ∀ v ∈ valuesUnder key os, ∀ w ∈ valuesUnder key os,
    v.kind ≠ .null → w.kind ≠ .null → v.kind = w.kind

/-! ## Values, keys, elements -/

theorem mem_valuesUnder {key : SourceName} {os : List Object} {v : Json} :
    v ∈ valuesUnder key os ↔ ∃ o ∈ os, (key, v) ∈ o := by
  simp [valuesUnder]

/-- There are no values under a key that no object has. -/
theorem valuesUnder_eq_nil {key : SourceName} {os : List Object}
    (h : key ∉ os.flatMap fun o => o.map Prod.fst) : valuesUnder key os = [] := by
  refine List.eq_nil_iff_forall_not_mem.mpr fun v hv => h ?_
  obtain ⟨o, ho, hmem⟩ := mem_valuesUnder.mp hv
  exact List.mem_flatMap.mpr ⟨o, ho, List.mem_map_of_mem (f := Prod.fst) hmem⟩

theorem mem_valuesByKey {g : SourceName × List Json} {os : List Object} :
    g ∈ valuesByKey os ↔ (∃ o ∈ os, ∃ v, (g.1, v) ∈ o) ∧ g.2 = valuesUnder g.1 os := by
  rcases g with ⟨key, values⟩
  simp only [valuesByKey, List.mem_map, Ordered.mem_distinct, List.mem_flatMap, Prod.mk.injEq]
  constructor
  · rintro ⟨k, ⟨o, ho, m, hm, rfl⟩, rfl, rfl⟩
    exact ⟨⟨o, ho, m.2, hm⟩, rfl⟩
  · rintro ⟨⟨o, ho, v, hv⟩, rfl⟩
    exact ⟨key, ⟨o, ho, (key, v), hv, rfl⟩, rfl, rfl⟩

theorem mem_objectsAmong {vs : List Json} {o : Object} :
    o ∈ objectsAmong vs ↔ Json.object o ∈ vs := by
  rw [objectsAmong, List.mem_filterMap]
  constructor
  · rintro ⟨v, hv, ho⟩
    cases v <;> cases ho
    exact hv
  · exact fun h => ⟨_, h, rfl⟩

theorem mem_elementsAmong {vs : List Json} {e : Json} :
    e ∈ elementsAmong vs ↔ ∃ items, Json.array items ∈ vs ∧ e ∈ items := by
  rw [elementsAmong, List.mem_flatten]
  constructor
  · rintro ⟨items, hitems, he⟩
    obtain ⟨v, hv, hi⟩ := List.mem_filterMap.mp hitems
    cases v <;> cases hi
    exact ⟨items, hv, he⟩
  · rintro ⟨items, hv, he⟩
    exact ⟨items, List.mem_filterMap.mpr ⟨_, hv, rfl⟩, he⟩

theorem mem_nonNull {vs : List Json} {v : Json} : v ∈ nonNull vs ↔ v ∈ vs ∧ v.kind ≠ .null := by
  rw [nonNull, List.mem_filter, decide_eq_true_eq]

theorem kind_eq_of_commonKind? {es : List Json} {kind : Json.Kind}
    (h : commonKind? es = some kind) : ∀ e ∈ es, e.kind = kind := by
  cases es with
  | nil => cases h
  | cons v vs =>
    rw [commonKind?] at h
    split at h
    · rename_i hall
      cases h
      intro e he
      rcases List.mem_cons.mp he with rfl | he
      · rfl
      · simpa using List.all_eq_true.mp hall e he
    · cases h

/-- An object holds at most one value under a key. -/
theorem length_filter_key_le {o : Object} (hnodup : (o.map Prod.fst).Nodup) (key : SourceName) :
    (o.filter fun m => m.1 = key).length ≤ 1 := by
  have hsub : ((o.filter fun m => m.1 = key).map Prod.fst).Nodup :=
    hnodup.sublist (List.filter_sublist.map Prod.fst)
  have hall : ∀ k ∈ (o.filter fun m => m.1 = key).map Prod.fst, k = key := by
    intro k hk
    obtain ⟨m, hm, rfl⟩ := List.mem_map.mp hk
    simpa using (List.mem_filter.mp hm).2
  rw [List.eq_replicate_of_mem hall, List.nodup_replicate, List.length_map] at hsub
  exact hsub

theorem length_valuesUnder_cons (key : SourceName) (o : Object) (os : List Object) :
    (valuesUnder key (o :: os)).length
      = (o.filter fun m => m.1 = key).length + (valuesUnder key os).length := by
  simp [valuesUnder]

/-- A key has at most as many values as there are objects. -/
theorem length_valuesUnder_le (key : SourceName) {os : List Object}
    (hkeyed : ∀ o ∈ os, (o.map Prod.fst).Nodup) : (valuesUnder key os).length ≤ os.length := by
  induction os with
  | nil => exact Nat.le_refl 0
  | cons o os ih =>
    have ho := length_filter_key_le (hkeyed o List.mem_cons_self) key
    have hos := ih fun q hq => hkeyed q (List.mem_cons_of_mem _ hq)
    rw [length_valuesUnder_cons, List.length_cons]
    omega

/-- **A key that some object lacks has fewer values than there are
objects**, as no object holds a key twice. -/
theorem length_valuesUnder_lt {key : SourceName} {os : List Object}
    (hkeyed : ∀ o ∈ os, (o.map Prod.fst).Nodup) {o : Object} (ho : o ∈ os)
    (hlacks : ∀ v, (key, v) ∉ o) : (valuesUnder key os).length < os.length := by
  induction os with
  | nil => exact absurd ho List.not_mem_nil
  | cons p os ih =>
    have hrest := fun q hq => hkeyed q (List.mem_cons_of_mem p hq)
    rw [length_valuesUnder_cons, List.length_cons]
    rcases List.mem_cons.mp ho with rfl | ho
    · have hnone : (o.filter fun m => m.1 = key) = [] := by
        refine List.filter_eq_nil_iff.mpr fun m hm => ?_
        simpa using fun hk : m.1 = key => hlacks m.2 (hk ▸ hm)
      have hos := length_valuesUnder_le key hrest
      rw [hnone, List.length_nil]
      omega
    · have hp := length_filter_key_le (hkeyed p List.mem_cons_self) key
      have hos := ih hrest ho
      omega

/-- The fields of a record, from the groups they are made of. -/
theorem fieldsOf_spec {shapeOf : List Json → Result Shape} {count : Nat}
    {groups : List (SourceName × List Json)} {fields : List (SourceName × Bool × Shape)}
    (h : fieldsOf shapeOf count groups = .ok fields) :
    (∀ f ∈ fields, ∃ values, (f.1, values) ∈ groups ∧ f.2.1 = decide (values.length < count)
        ∧ shapeOf values = .ok f.2.2)
      ∧ ∀ g ∈ groups, ∃ f ∈ fields, f.1 = g.1 := by
  induction groups generalizing fields with
  | nil =>
    cases h
    exact ⟨fun f hf => absurd hf List.not_mem_nil, fun g hg => absurd hg List.not_mem_nil⟩
  | cons group groups ih =>
    rcases group with ⟨key, values⟩
    rw [fieldsOf] at h
    split at h
    · cases h
    · rename_i shape hshape
      split at h
      · cases h
      · rename_i rest hrest
        cases h
        obtain ⟨hfields, hgroups⟩ := ih hrest
        refine ⟨fun f hf => ?_, fun g hg => ?_⟩
        · rcases List.mem_cons.mp hf with rfl | hf
          · exact ⟨values, List.mem_cons_self, rfl, hshape⟩
          · obtain ⟨vs, hvs, hrest⟩ := hfields f hf
            exact ⟨vs, List.mem_cons_of_mem _ hvs, hrest⟩
        · rcases List.mem_cons.mp hg with rfl | hg
          · exact ⟨_, List.mem_cons_self, rfl⟩
          · obtain ⟨f, hf, hkey⟩ := hgroups g hg
            exact ⟨f, List.mem_cons_of_mem _ hf, hkey⟩

/-! ## Scalars -/

theorem eq_null_of_kind {v : Json} (h : v.kind = .null) : v = .null := by
  cases v <;> first | rfl | cases h

theorem fits_boolean {v : Json} (h : v.kind = .boolean) : Fits v .boolean := by
  cases v with
  | bool b => exact Fits.boolean b
  | _ => cases h

theorem fits_number {v : Json} (h : v.kind = .number) : Fits v .number := by
  cases v with
  | number n => exact Fits.number n
  | _ => cases h

theorem fits_string {v : Json} (h : v.kind = .string) : Fits v .string := by
  cases v with
  | string s => exact Fits.string s
  | _ => cases h

/-- A list fits when the elements that are taken together with its own
do. -/
theorem fits_array {vs : List Json} {element : Shape}
    (h : ∀ e ∈ elementsAmong vs, Fits e element) {v : Json} (hv : v ∈ vs)
    (hkind : v.kind = .array) : Fits v (.array element) := by
  cases v with
  | array items => exact Fits.array fun e he => h e (mem_elementsAmong.mpr ⟨items, hv, he⟩)
  | _ => cases hkind

/-- An object fits when the objects among the values do. -/
theorem fits_object {vs : List Json} {shape : Shape}
    (h : ∀ o ∈ objectsAmong vs, Fits (.object o) shape) {v : Json} (hv : v ∈ vs)
    (hkind : v.kind = .object) : Fits v shape := by
  cases v with
  | object members => exact h members (mem_objectsAmong.mpr hv)
  | _ => cases hkind

theorem exists_of_map_eq_ok {α β : Type} {f : α → β} {r : Result α} {y : β}
    (h : r.map f = .ok y) : ∃ x, r = .ok x ∧ y = f x := by
  cases r with
  | ok x =>
    cases h
    exact ⟨x, rfl, rfl⟩
  | error e => cases h

/-! ## Soundness of the walk -/

section Walk

variable {object : Object}

/-- What the walk gets to has no key twice. -/
theorem Visits.keyed (hkeyed : (Json.object object).Keyed) {p : Place} (h : Visits object p) :
    p.Keyed := by
  have helements : ∀ {vs : List Json}, (∀ v ∈ vs, v.Keyed) → ∀ v ∈ elementsAmong vs, v.Keyed := by
    intro vs hvs v hv
    obtain ⟨items, hitems, hv⟩ := mem_elementsAmong.mp hv
    cases hvs _ hitems with
    | array hall => exact hall v hv
  have hpresent : ∀ {vs us : List Json}, (∀ v ∈ vs, v.Keyed) → nonNull vs = us →
      ∀ v ∈ us, v.Keyed := by
    rintro vs us hvs rfl v hv
    exact hvs v (mem_nonNull.mp hv).1
  induction h with
  | root =>
    intro o ho
    rw [List.mem_singleton.mp ho]
    exact hkeyed
  | member key _ ih =>
    intro v hv
    obtain ⟨o, ho, hmem⟩ := mem_valuesUnder.mp hv
    cases ih o ho with
    | object _ hall => exact hall _ hmem
  | lists _ hfirst _ ih => exact helements (hpresent ih hfirst)
  | records _ hfirst _ ih => exact fun o ho => hpresent ih hfirst _ (mem_objectsAmong.mp ho)
  | nested _ _ ih => exact helements ih
  | items _ _ ih => exact fun o ho => ih _ (mem_objectsAmong.mp ho)

/-- The values of a key are of the kind of the first that is not null. -/
theorem Visits.null_or_kind_eq (hkinds : ∀ os, Visits object (.objects os) → AgreeInKinds os)
    {vs us : List Json} {v : Json}
    (hv : Visits object (.values vs)) (hfirst : nonNull vs = v :: us) {w : Json} (hw : w ∈ vs) :
    w = .null ∨ w ∈ v :: us ∧ w.kind = v.kind := by
  by_cases hnull : w.kind = .null
  · exact Or.inl (eq_null_of_kind hnull)
  · have hvmem : v ∈ vs ∧ v.kind ≠ .null := mem_nonNull.mp (hfirst ▸ List.mem_cons_self)
    refine Or.inr ⟨hfirst ▸ mem_nonNull.mpr ⟨hw, hnull⟩, ?_⟩
    cases hv with
    | member key hos => exact hkinds _ hos key w hw v hvmem.1 hnull hvmem.2

/-- One step of the walk: the values of a key fit their shape, if what is
nested in them does. -/
theorem ofValues_fits (hkinds : ∀ os, Visits object (.objects os) → AgreeInKinds os) {b : Nat}
    (helements : ∀ {es s}, Visits object (.elements es) → ofElements b es = .ok s →
      ∀ e ∈ es, Fits e s)
    (hobjects : ∀ {os s}, Visits object (.objects os) → ofObjects b os = .ok s →
      ∀ o ∈ os, Fits (.object o) s)
    {vs : List Json} {s : Shape} (hv : Visits object (.values vs))
    (h : ofValues (b + 1) vs = .ok s) : ∀ v ∈ vs, Fits v s := by
  intro w hw
  rw [ofValues] at h
  split at h
  · cases h
    exact Fits.any w
  · rename_i v us hfirst
    -- the first value that is not null gives the kind, and all others have it
    rcases hv.null_or_kind_eq hkinds hfirst hw with rfl | ⟨hmem, hkind⟩
    · exact Fits.null s
    · split at h
      · cases h
        exact Fits.any w
      · rename_i hk
        cases h
        exact fits_boolean (hkind.trans hk)
      · rename_i hk
        cases h
        exact fits_number (hkind.trans hk)
      · rename_i hk
        cases h
        exact fits_string (hkind.trans hk)
      · rename_i hk
        obtain ⟨element, helement, rfl⟩ := exists_of_map_eq_ok h
        exact fits_array (helements (hv.lists hfirst hk) helement) hmem (hkind.trans hk)
      · rename_i hk
        exact fits_object (hobjects (hv.records hfirst hk) h) hmem (hkind.trans hk)

/-- One step of the walk: the elements of arrays fit their shape, if what
is nested in them does. -/
theorem ofElements_fits {b : Nat}
    (helements : ∀ {es s}, Visits object (.elements es) → ofElements b es = .ok s →
      ∀ e ∈ es, Fits e s)
    (hobjects : ∀ {os s}, Visits object (.objects os) → ofObjects b os = .ok s →
      ∀ o ∈ os, Fits (.object o) s)
    {es : List Json} {s : Shape} (hv : Visits object (.elements es))
    (h : ofElements (b + 1) es = .ok s) : ∀ e ∈ es, Fits e s := by
  intro e he
  rw [ofElements] at h
  split at h
  · cases h
    exact Fits.any e
  · cases h
    exact Fits.any e
  · rename_i hk
    cases h
    exact fits_boolean (kind_eq_of_commonKind? hk e he)
  · rename_i hk
    cases h
    exact fits_number (kind_eq_of_commonKind? hk e he)
  · rename_i hk
    cases h
    exact fits_string (kind_eq_of_commonKind? hk e he)
  · rename_i hk
    obtain ⟨element, helement, rfl⟩ := exists_of_map_eq_ok h
    exact fits_array (helements (hv.nested hk) helement) he (kind_eq_of_commonKind? hk e he)
  · rename_i hk
    exact fits_object (hobjects (hv.items hk) h) he (kind_eq_of_commonKind? hk e he)

variable (hkeyed : (Json.object object).Keyed)

include hkeyed

/-- Merged objects fit the record that is made of them, if the values of
every key fit their shape. -/
theorem record_fits {shapeOf : List Json → Result Shape} {os : List Object}
    (hv : Visits object (.objects os))
    (hshape : ∀ {vs s}, Visits object (.values vs) → shapeOf vs = .ok s → ∀ v ∈ vs, Fits v s)
    {fields : List (SourceName × Bool × Shape)}
    (h : fieldsOf shapeOf os.length (valuesByKey os) = .ok fields) :
    ∀ o ∈ os, Fits (.object o) (.record fields) := by
  obtain ⟨hfields, hgroups⟩ := fieldsOf_spec h
  have hnodup : ∀ o ∈ os, (o.map Prod.fst).Nodup := by
    intro o ho
    cases hv.keyed hkeyed o ho with
    | object hnodup _ => exact hnodup
  intro o ho
  refine Fits.record (fun f hf hrequired => ?_) (fun m hm => ?_) (fun m hm f hf hkey => ?_)
  · -- a field that is not optional has as many values as there are objects
    obtain ⟨values, hvalues, hoptional, -⟩ := hfields f hf
    obtain rfl : values = valuesUnder f.1 os := (mem_valuesByKey.mp hvalues).2
    by_contra hlacks
    have hlt := length_valuesUnder_lt hnodup ho fun v hmem => hlacks ⟨v, hmem⟩
    rw [hoptional, decide_eq_false_iff_not] at hrequired
    exact hrequired hlt
  · exact hgroups (m.1, valuesUnder m.1 os) (mem_valuesByKey.mpr ⟨⟨o, ho, m.2, hm⟩, rfl⟩)
  · obtain ⟨values, hvalues, -, hs⟩ := hfields f hf
    obtain rfl : values = valuesUnder f.1 os := (mem_valuesByKey.mp hvalues).2
    refine hshape (hv.member f.1) hs m.2 (mem_valuesUnder.mpr ⟨o, ho, ?_⟩)
    rw [hkey]
    exact hm

variable (hkinds : ∀ os, Visits object (.objects os) → AgreeInKinds os)

include hkinds

/-- **Soundness of the walk**, for all three of its parts at once: what is
looked at together fits the shape that is found. The induction is on the
budget. -/
theorem walk_fits (budget : Nat) :
    (∀ {vs s}, Visits object (.values vs) → ofValues budget vs = .ok s → ∀ v ∈ vs, Fits v s)
      ∧ (∀ {es s}, Visits object (.elements es) → ofElements budget es = .ok s →
          ∀ e ∈ es, Fits e s)
      ∧ ∀ {os s}, Visits object (.objects os) → ofObjects budget os = .ok s →
          ∀ o ∈ os, Fits (.object o) s := by
  induction budget using Nat.strongRecOn with
  | ind budget ih =>
    refine ⟨fun {vs s} hv h => ?_, fun {es s} hv h => ?_, fun {os s} hv h => ?_⟩
    · cases budget with
      | zero => cases h
      | succ b =>
        obtain ⟨-, helements, hobjects⟩ := ih b (Nat.lt_succ_self b)
        exact ofValues_fits hkinds helements hobjects hv h
    · cases budget with
      | zero => cases h
      | succ b =>
        obtain ⟨-, helements, hobjects⟩ := ih b (Nat.lt_succ_self b)
        exact ofElements_fits helements hobjects hv h
    · -- objects cost two levels of the budget
      match budget, ih, h with
      | b + 2, ih, h =>
        obtain ⟨hvalues, -, -⟩ := ih b (by omega)
        rw [ofObjects] at h
        obtain ⟨fields, hfields, rfl⟩ := exists_of_map_eq_ok h
        exact record_fits hkeyed hv hvalues hfields

/-- **A sample fits the record that is made of it.** -/
theorem record_fits_sample {fields : List (SourceName × Bool × Shape)}
    (h : fieldsOfSample object = .ok fields) : Fits (.object object) (.record fields) :=
  record_fits hkeyed Visits.root (walk_fits hkeyed hkinds walkBudget).1 h object
    List.mem_cons_self

end Walk

end Shape

end TypedTraffic
