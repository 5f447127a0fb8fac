import TypedTraffic.Proofs.Shape.Fitting

/-!
# How deep the walk gets

The walk over a sample goes from merged objects to the values of a key,
and from these to the elements of lists or to the objects among them. Each
step has a cost, and so has every place the walk leads to (`Leads`): what
all steps on the way to it cost together.

The walk gets through a sample if and only if no place it leads to costs
more than the budget (`exists_fieldsOfSample_iff`). So the order in which
the walk takes keys and elements plays no part, only how deeply they are
nested. A walk that does not get through has met keys of the sample, and no
others (`meets_of_mem_met`).
-/

namespace TypedTraffic.Shape

open Naming

/-- **One step of the walk**, with its cost. -/
inductive Step : Place → Nat → Place → Prop
  /-- To the values of a key of merged objects. -/
  | member {os : List Object} {key : SourceName} :
    (∃ o ∈ os, ∃ v, (key, v) ∈ o) → Step (.objects os) 1 (.values (valuesUnder key os))
  /-- To the elements of the lists among the values of a key. -/
  | lists {vs us : List Json} {v : Json} :
    nonNull vs = v :: us → v.kind = .array →
      Step (.values vs) 1 (.elements (elementsAmong (v :: us)))
  /-- To the objects among the values of a key. -/
  | records {vs us : List Json} {v : Json} :
    nonNull vs = v :: us → v.kind = .object →
      Step (.values vs) 2 (.objects (objectsAmong (v :: us)))
  /-- To the elements of elements that are all lists. -/
  | nested {es : List Json} :
    commonKind? es = some .array → Step (.elements es) 1 (.elements (elementsAmong es))
  /-- To elements that are all objects. -/
  | items {es : List Json} :
    commonKind? es = some .object → Step (.elements es) 2 (.objects (objectsAmong es))

/-- **The places the walk leads to** from one place, with the cost of all
steps on the way. -/
inductive Leads : Place → Nat → Place → Prop
  /-- No step costs nothing. -/
  | here (p : Place) : Leads p 0 p
  /-- One step more. -/
  | step {p q r : Place} {c n : Nat} : Step p c q → Leads q n r → Leads p (c + n) r

/-- **The walk gets through what is nested in a place**, with what is left
of the budget there. -/
def GetsThrough (budget : Nat) : Place → Prop
  | .values vs => ∃ shape, ofValues (budget + 1) vs = .ok shape
  | .elements es => ∃ shape, ofElements (budget + 1) es = .ok shape
  | .objects os => ∃ fields, fieldsOf (ofValues budget) os.length (valuesByKey os) = .ok fields

/-! ## Results -/

theorem exists_map_eq_ok_iff {α β : Type} {f : α → β} {r : Result α} :
    (∃ y, r.map f = .ok y) ↔ ∃ x, r = .ok x := by
  constructor
  · rintro ⟨y, hy⟩
    obtain ⟨x, hx, -⟩ := exists_of_map_eq_ok hy
    exact ⟨x, hx⟩
  · rintro ⟨x, rfl⟩
    exact ⟨f x, rfl⟩

theorem exists_fieldsOf_iff {shapeOf : List Json → Result Shape} {count : Nat}
    {groups : List (SourceName × List Json)} :
    (∃ fields, fieldsOf shapeOf count groups = .ok fields)
      ↔ ∀ g ∈ groups, ∃ shape, shapeOf g.2 = .ok shape := by
  induction groups with
  | nil => exact ⟨fun _ _ hg => absurd hg List.not_mem_nil, fun _ => ⟨[], rfl⟩⟩
  | cons g groups ih =>
    rw [List.forall_mem_cons, ← ih, fieldsOf]
    cases shapeOf g.2 with
    | error e => simp
    | ok shape => cases fieldsOf shapeOf count groups <;> simp

/-! ## Places from their steps -/

theorem exists_ofValues_iff {budget : Nat} {vs : List Json} :
    (∃ shape, ofValues budget vs = .ok shape)
      ↔ 1 ≤ budget ∧ GetsThrough (budget - 1) (.values vs) := by
  cases budget with
  | zero => simp [ofValues]
  | succ b => simp [GetsThrough]

theorem exists_ofElements_iff {budget : Nat} {es : List Json} :
    (∃ shape, ofElements budget es = .ok shape)
      ↔ 1 ≤ budget ∧ GetsThrough (budget - 1) (.elements es) := by
  cases budget with
  | zero => simp [ofElements]
  | succ b => simp [GetsThrough]

theorem exists_ofObjects_iff {budget : Nat} {os : List Object} :
    (∃ shape, ofObjects budget os = .ok shape)
      ↔ 2 ≤ budget ∧ GetsThrough (budget - 2) (.objects os) := by
  match budget with
  | 0 => simp [ofObjects]
  | 1 => simp [ofObjects]
  | b + 2 =>
    rw [ofObjects, exists_map_eq_ok_iff]
    simp [GetsThrough]

theorem getsThrough_objects {budget : Nat} {os : List Object} :
    GetsThrough budget (.objects os)
      ↔ ∀ c q, Step (.objects os) c q → c ≤ budget ∧ GetsThrough (budget - c) q := by
  rw [GetsThrough, exists_fieldsOf_iff]
  constructor
  · rintro h c q (⟨hkey⟩)
    exact exists_ofValues_iff.mp (h (_, _) (mem_valuesByKey.mpr ⟨hkey, rfl⟩))
  · intro h g hg
    obtain ⟨hkey, hvalues⟩ := mem_valuesByKey.mp hg
    rw [hvalues]
    exact exists_ofValues_iff.mpr (h 1 _ (.member hkey))

theorem getsThrough_values {budget : Nat} {vs : List Json} :
    GetsThrough budget (.values vs)
      ↔ ∀ c q, Step (.values vs) c q → c ≤ budget ∧ GetsThrough (budget - c) q := by
  have hshape : ∀ v us, nonNull vs = v :: us → (GetsThrough budget (.values vs)
      ↔ (v.kind = .array → ∃ shape, ofElements budget (elementsAmong (v :: us)) = .ok shape)
        ∧ (v.kind = .object → ∃ shape, ofObjects budget (objectsAmong (v :: us)) = .ok shape)) := by
    intro v us hfirst
    rw [nonNull] at hfirst
    rw [GetsThrough, ofValues, hfirst]
    cases v <;> simp [Json.kind, exists_map_eq_ok_iff]
  rcases hvs : nonNull vs with - | ⟨v, us⟩
  · -- nothing is nested in values that are all null
    refine iff_of_true ?_ fun c q hstep => ?_
    · rw [nonNull] at hvs
      rw [GetsThrough, ofValues, hvs]
      exact ⟨_, rfl⟩
    · cases hstep with
      | lists hfirst _ => exact absurd (hvs.symm.trans hfirst) (by simp)
      | records hfirst _ => exact absurd (hvs.symm.trans hfirst) (by simp)
  · rw [hshape v us hvs, exists_ofElements_iff, exists_ofObjects_iff]
    constructor
    · rintro ⟨hlists, hrecords⟩ c q hstep
      cases hstep with
      | lists hfirst hkind =>
        obtain ⟨rfl, rfl⟩ := List.cons.inj (hvs.symm.trans hfirst)
        exact hlists hkind
      | records hfirst hkind =>
        obtain ⟨rfl, rfl⟩ := List.cons.inj (hvs.symm.trans hfirst)
        exact hrecords hkind
    · exact fun h =>
        ⟨fun hkind => h 1 _ (.lists hvs hkind), fun hkind => h 2 _ (.records hvs hkind)⟩

theorem getsThrough_elements {budget : Nat} {es : List Json} :
    GetsThrough budget (.elements es)
      ↔ ∀ c q, Step (.elements es) c q → c ≤ budget ∧ GetsThrough (budget - c) q := by
  have hshape : GetsThrough budget (.elements es)
      ↔ (commonKind? es = some .array →
          ∃ shape, ofElements budget (elementsAmong es) = .ok shape)
        ∧ (commonKind? es = some .object →
          ∃ shape, ofObjects budget (objectsAmong es) = .ok shape) := by
    rw [GetsThrough, ofElements]
    rcases commonKind? es with - | kind
    · simp
    · cases kind <;> simp [exists_map_eq_ok_iff]
  rw [hshape, exists_ofElements_iff, exists_ofObjects_iff]
  constructor
  · rintro ⟨hlists, hrecords⟩ c q hstep
    cases hstep with
    | nested hkind => exact hlists hkind
    | items hkind => exact hrecords hkind
  · exact fun h => ⟨fun hkind => h 1 _ (.nested hkind), fun hkind => h 2 _ (.items hkind)⟩

/-- **The walk gets through a place** if it can pay for every step from
there and gets through what the step leads to. -/
theorem getsThrough_iff {budget : Nat} {p : Place} :
    GetsThrough budget p ↔ ∀ c q, Step p c q → c ≤ budget ∧ GetsThrough (budget - c) q := by
  cases p with
  | values vs => exact getsThrough_values
  | elements es => exact getsThrough_elements
  | objects os => exact getsThrough_objects

/-! ## What the walk can pay for -/

/-- Every step costs something. -/
theorem Step.pos {p q : Place} {c : Nat} (h : Step p c q) : 0 < c := by
  cases h <;> decide

theorem GetsThrough.le {p q : Place} {n : Nat} (h : Leads p n q) :
    ∀ {budget : Nat}, GetsThrough budget p → n ≤ budget := by
  induction h with
  | here p => exact fun _ => Nat.zero_le _
  | step hstep _ ih =>
    intro budget hp
    obtain ⟨hc, hq⟩ := getsThrough_iff.mp hp _ _ hstep
    have hn := ih hq
    omega

/-- **The walk gets through a place** if and only if the budget pays for
all that it leads to. The induction is on the budget, which every step
makes smaller. -/
theorem getsThrough_iff_leads {budget : Nat} {p : Place} :
    GetsThrough budget p ↔ ∀ n q, Leads p n q → n ≤ budget := by
  refine ⟨fun hp n q h => hp.le h, fun h => ?_⟩
  induction budget using Nat.strongRecOn generalizing p with
  | ind budget ih =>
    refine getsThrough_iff.mpr fun c q hstep => ?_
    have hc : c ≤ budget := h (c + 0) q (.step hstep (.here q))
    have hless : budget - c < budget := Nat.sub_lt (Nat.lt_of_lt_of_le hstep.pos hc) hstep.pos
    refine ⟨hc, ih (budget - c) hless fun n r hr => ?_⟩
    have hn := h (c + n) r (.step hstep hr)
    omega

/-- **A sample that is not nested too deeply**: no place the walk over it
leads to costs more than the budget of the walk. -/
def WithinBudget (object : Object) : Prop :=
  ∀ n p, Leads (.objects [object]) n p → n ≤ walkBudget

/-- **A sample has fields** if and only if it is not nested too deeply. -/
theorem exists_fieldsOfSample_iff (object : Object) :
    (∃ fields, fieldsOfSample object = .ok fields) ↔ WithinBudget object :=
  @getsThrough_iff_leads walkBudget (.objects [object])

/-! ## The keys that are met -/

/-- **A key of the sample**, of an object that the walk gets to. -/
def Meets (object : Object) (key : SourceName) : Prop :=
  ∃ os, Visits object (.objects os) ∧ ∃ o ∈ os, ∃ v, (key, v) ∈ o

/-- The keys that are met on the way to a shape, or until the budget runs
out. -/
def Result.keysMet : Result Shape → List SourceName
  | .ok shape => shape.keys
  | .error e => e.met

/-- The keys that are met on the way to the fields of a record, or until the
budget runs out. -/
def Result.fieldKeysMet : Result (List (SourceName × Bool × Shape)) → List SourceName
  | .ok fields => keysOfFields fields
  | .error e => e.met

theorem keysMet_map_array (r : Result Shape) : (r.map Shape.array).keysMet = r.keysMet := by
  cases r <;> rfl

theorem keysMet_map_record (r : Result (List (SourceName × Bool × Shape))) :
    (r.map Shape.record).keysMet = r.fieldKeysMet := by
  cases r <;> rfl

theorem mem_fieldKeysMet {shapeOf : List Json → Result Shape} {count : Nat}
    {groups : List (SourceName × List Json)} {key : SourceName}
    (h : key ∈ Result.fieldKeysMet (fieldsOf shapeOf count groups)) :
    ∃ g ∈ groups, key = g.1 ∨ key ∈ (shapeOf g.2).keysMet := by
  induction groups with
  | nil => exact absurd h List.not_mem_nil
  | cons g groups ih =>
    rw [fieldsOf] at h
    cases hshape : shapeOf g.2 with
    | error e =>
      simp only [hshape] at h
      refine ⟨g, List.mem_cons_self, (List.mem_cons.mp h).imp_right fun hmet => ?_⟩
      rw [hshape]
      exact hmet
    | ok shape =>
      have hrest : key = g.1 ∨ key ∈ shape.keys
          ∨ key ∈ Result.fieldKeysMet (fieldsOf shapeOf count groups) := by
        simp only [hshape] at h
        cases hfields : fieldsOf shapeOf count groups with
        | error e =>
          simp only [hfields] at h
          exact (List.mem_cons.mp h).imp_right List.mem_append.mp
        | ok fields =>
          simp only [hfields] at h
          exact (List.mem_cons.mp h).imp_right List.mem_append.mp
      rcases hrest with hkey | hkey | hkey
      · exact ⟨g, List.mem_cons_self, Or.inl hkey⟩
      · exact ⟨g, List.mem_cons_self, Or.inr (by rwa [hshape])⟩
      · obtain ⟨g', hg', hmet⟩ := ih hkey
        exact ⟨g', List.mem_cons_of_mem _ hg', hmet⟩

section Met

variable {object : Object}

/-- One step: the keys that are met in the objects that are merged. -/
theorem meets_of_mem_fieldKeysMet {shapeOf : List Json → Result Shape} {os : List Object}
    (hos : Visits object (.objects os))
    (hvalues : ∀ vs, Visits object (.values vs) → ∀ key ∈ (shapeOf vs).keysMet, Meets object key)
    {count : Nat} {key : SourceName}
    (h : key ∈ Result.fieldKeysMet (fieldsOf shapeOf count (valuesByKey os))) :
    Meets object key := by
  obtain ⟨g, hg, hkey⟩ := mem_fieldKeysMet h
  obtain ⟨hmember, hgroup⟩ := mem_valuesByKey.mp hg
  rcases hkey with rfl | hkey
  · exact ⟨os, hos, hmember⟩
  · rw [hgroup] at hkey
    exact hvalues _ (hos.member g.1) key hkey

/-- **The walk meets keys of the sample only**, in all three of its parts.
The induction is on the budget. -/
theorem meets_of_mem_keysMet (budget : Nat) :
    (∀ vs, Visits object (.values vs) → ∀ key ∈ (ofValues budget vs).keysMet, Meets object key)
      ∧ (∀ es, Visits object (.elements es) →
          ∀ key ∈ (ofElements budget es).keysMet, Meets object key)
      ∧ ∀ os, Visits object (.objects os) →
          ∀ key ∈ (ofObjects budget os).keysMet, Meets object key := by
  induction budget using Nat.strongRecOn with
  | ind budget ih =>
    refine ⟨fun vs hv key hkey => ?_, fun es hv key hkey => ?_, fun os hv key hkey => ?_⟩
    · cases budget with
      | zero => exact absurd hkey List.not_mem_nil
      | succ b =>
        obtain ⟨-, helements, hobjects⟩ := ih b (Nat.lt_succ_self b)
        rw [ofValues] at hkey
        split at hkey
        · exact absurd hkey List.not_mem_nil
        · rename_i v us hfirst
          split at hkey
          · exact absurd hkey List.not_mem_nil
          · exact absurd hkey List.not_mem_nil
          · exact absurd hkey List.not_mem_nil
          · exact absurd hkey List.not_mem_nil
          · rename_i hkind
            rw [keysMet_map_array] at hkey
            exact helements _ (hv.lists hfirst hkind) key hkey
          · rename_i hkind
            exact hobjects _ (hv.records hfirst hkind) key hkey
    · cases budget with
      | zero => exact absurd hkey List.not_mem_nil
      | succ b =>
        obtain ⟨-, helements, hobjects⟩ := ih b (Nat.lt_succ_self b)
        rw [ofElements] at hkey
        split at hkey
        · exact absurd hkey List.not_mem_nil
        · exact absurd hkey List.not_mem_nil
        · exact absurd hkey List.not_mem_nil
        · exact absurd hkey List.not_mem_nil
        · exact absurd hkey List.not_mem_nil
        · rename_i hkind
          rw [keysMet_map_array] at hkey
          exact helements _ (hv.nested hkind) key hkey
        · rename_i hkind
          exact hobjects _ (hv.items hkind) key hkey
    · -- a record costs two levels, its own and its fields'
      cases budget with
      | zero => exact absurd hkey List.not_mem_nil
      | succ n =>
        cases n with
        | zero => exact absurd hkey List.not_mem_nil
        | succ b =>
          rw [ofObjects, keysMet_map_record] at hkey
          exact meets_of_mem_fieldKeysMet hv (ih b (by omega)).1 hkey

/-- **What is met before the budget runs out** are keys of the sample. -/
theorem meets_of_mem_met {e : TooDeep} (h : fieldsOfSample object = .error e) {key : SourceName}
    (hkey : key ∈ e.met) : Meets object key := by
  have hmet : key ∈ (fieldsOfSample object).fieldKeysMet := by
    rw [h]
    exact hkey
  exact meets_of_mem_fieldKeysMet Visits.root (meets_of_mem_keysMet walkBudget).1 hmet

end Met

end TypedTraffic.Shape
