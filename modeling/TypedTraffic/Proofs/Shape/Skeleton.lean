import Mathlib.Data.List.Basic
import TypedTraffic.Sample

/-!
# What a definition tells of its sample

The **skeleton** of a value keeps the keys of its objects, the lengths of
its lists and the kinds of its scalars, and forgets the scalars. The walk
over a sample sees no more than the skeleton: it looks at kinds, keys and
lengths, and finds the same shape, or the same keys when it runs out of
budget, in a sample and in its skeleton (`fieldsOfSample_skeleton`).

So two JSON objects of one skeleton lead to one definition, one notice and
the same names of fields (`infer_eq_of_sameSkeleton`).
-/

namespace TypedTraffic

open Naming

namespace Json

mutual

/-- **The skeleton of a value**: one scalar of its kind in the place of
each scalar. -/
def skeleton : Json → Json
  | .null => .null
  | .bool _ => .bool false
  | .number _ => .number (.whole 0)
  | .string _ => .string []
  | .array items => .array (skeletons items)
  | .object members => .object (memberSkeletons members)
  termination_by structural v => v

/-- The skeletons of several values. -/
def skeletons : List Json → List Json
  | [] => []
  | v :: vs => v.skeleton :: skeletons vs
  termination_by structural vs => vs

/-- The members of an object with the skeletons of their values. -/
def memberSkeletons : List (SourceName × Json) → List (SourceName × Json)
  | [] => []
  | (key, v) :: members => (key, v.skeleton) :: memberSkeletons members
  termination_by structural members => members

end

theorem skeletons_eq_map (vs : List Json) : skeletons vs = vs.map skeleton := by
  induction vs with
  | nil => rfl
  | cons v vs ih => rw [skeletons, ih, List.map_cons]

theorem memberSkeletons_eq_map (members : Object) :
    memberSkeletons members = members.map fun m => (m.1, m.2.skeleton) := by
  induction members with
  | nil => rfl
  | cons m members ih => rw [memberSkeletons, ih, List.map_cons]

theorem kind_skeleton (v : Json) : v.skeleton.kind = v.kind := by
  cases v <;> rfl

theorem members?_skeleton (v : Json) : v.skeleton.members? = v.members?.map memberSkeletons := by
  cases v <;> rfl

theorem items?_skeleton (v : Json) : v.skeleton.items? = v.items?.map skeletons := by
  cases v <;> rfl

/-- **Texts that are JSON objects of one skeleton.** -/
def SameSkeleton (source source' : String) : Prop :=
  ∃ members members', parse source = .ok (.object members)
    ∧ parse source' = .ok (.object members')
    ∧ (Json.object members).skeleton = (Json.object members').skeleton

/-- Empty text is no JSON object. -/
theorem isEmpty_of_parse {source : String} {members : Object}
    (h : parse source = .ok (.object members)) : source.isEmpty = false := by
  rw [Bool.eq_false_iff]
  intro hempty
  rw [String.isEmpty_iff.mp hempty] at h
  have hfault : parse "" = .error (.malformed .expectingValue 1 1 0) := by decide +kernel
  rw [hfault] at h
  cases h

end Json

namespace Shape

open Json

/-! ## The walk over a skeleton -/

theorem nonNull_skeleton (vs : List Json) :
    (vs.map skeleton).filter (·.kind ≠ .null) = (vs.filter (·.kind ≠ .null)).map skeleton := by
  rw [List.filter_map]
  refine congrArg (List.map skeleton) (List.filter_congr fun v _ => ?_)
  simp [kind_skeleton]

theorem objectsAmong_skeleton (vs : List Json) :
    objectsAmong (vs.map skeleton) = (objectsAmong vs).map memberSkeletons := by
  rw [objectsAmong, objectsAmong, List.filterMap_map, List.map_filterMap]
  exact List.filterMap_congr fun v _ => members?_skeleton v

theorem elementsAmong_skeleton (vs : List Json) :
    elementsAmong (vs.map skeleton) = (elementsAmong vs).map skeleton := by
  rw [elementsAmong, elementsAmong, List.map_flatten, List.filterMap_map, List.map_filterMap]
  refine congrArg List.flatten (List.filterMap_congr fun v _ => ?_)
  rw [Function.comp_apply, items?_skeleton]
  exact congrArg (Option.map · v.items?) (funext skeletons_eq_map)

theorem commonKind?_skeleton (vs : List Json) : commonKind? (vs.map skeleton) = commonKind? vs := by
  cases vs with
  | nil => rfl
  | cons v vs =>
    rw [List.map_cons, commonKind?, commonKind?, List.all_map, kind_skeleton]
    simp only [Function.comp_def, kind_skeleton]

theorem valuesUnder_skeleton (key : SourceName) (os : List Object) :
    valuesUnder key (os.map memberSkeletons) = (valuesUnder key os).map skeleton := by
  rw [valuesUnder, valuesUnder, List.flatMap_map, List.map_flatMap]
  refine List.flatMap_congr fun o _ => ?_
  rw [memberSkeletons_eq_map, List.filter_map, List.map_map, List.map_map]
  rfl

theorem valuesByKey_skeleton (os : List Object) :
    valuesByKey (os.map memberSkeletons)
      = (valuesByKey os).map fun g => (g.1, g.2.map skeleton) := by
  have hkeys : ∀ o : Object, (memberSkeletons o).map Prod.fst = o.map Prod.fst := by
    intro o
    rw [memberSkeletons_eq_map, List.map_map]
    rfl
  rw [valuesByKey, valuesByKey, List.flatMap_map, List.map_map]
  simp only [hkeys, valuesUnder_skeleton, Function.comp_def]

/-- The fields of a record are those of the skeletons of its values, if
this is so of their shapes. -/
theorem fieldsOf_skeleton {shapeOf : List Json → Result Shape}
    (h : ∀ vs, shapeOf (vs.map skeleton) = shapeOf vs) (count : Nat)
    (groups : List (SourceName × List Json)) :
    fieldsOf shapeOf count (groups.map fun g => (g.1, g.2.map skeleton))
      = fieldsOf shapeOf count groups := by
  induction groups with
  | nil => rfl
  | cons group groups ih =>
    rcases group with ⟨key, values⟩
    rw [List.map_cons, fieldsOf, fieldsOf, h, ih, List.length_map]

/-- **The walk sees no more than skeletons**, in all three of its parts.
The induction is on the budget. -/
theorem walk_skeleton (budget : Nat) :
    (∀ vs, ofValues budget (vs.map skeleton) = ofValues budget vs)
      ∧ (∀ es, ofElements budget (es.map skeleton) = ofElements budget es)
      ∧ ∀ os, ofObjects budget (os.map memberSkeletons) = ofObjects budget os := by
  induction budget using Nat.strongRecOn with
  | ind budget ih =>
    refine ⟨fun vs => ?_, fun es => ?_, fun os => ?_⟩
    · cases budget with
      | zero => rfl
      | succ b =>
        obtain ⟨-, helements, hobjects⟩ := ih b (Nat.lt_succ_self b)
        rw [ofValues, ofValues, nonNull_skeleton]
        cases vs.filter (·.kind ≠ .null) with
        | nil => rfl
        | cons v us =>
          simp only [List.map_cons, kind_skeleton]
          rw [← List.map_cons, elementsAmong_skeleton, objectsAmong_skeleton, helements, hobjects]
    · cases budget with
      | zero => rfl
      | succ b =>
        obtain ⟨-, helements, hobjects⟩ := ih b (Nat.lt_succ_self b)
        rw [ofElements, ofElements, commonKind?_skeleton, elementsAmong_skeleton,
          objectsAmong_skeleton, helements, hobjects]
    · match budget, ih with
      | 0, _ => rfl
      | 1, _ => rfl
      | b + 2, ih =>
        obtain ⟨hvalues, -, -⟩ := ih b (by omega)
        rw [ofObjects, ofObjects, valuesByKey_skeleton, fieldsOf_skeleton hvalues,
          List.length_map]

/-- **A sample has the shape of its skeleton.** -/
theorem fieldsOfSample_skeleton (object : Object) :
    fieldsOfSample (memberSkeletons object) = fieldsOfSample object := by
  have hgroups : valuesByKey [memberSkeletons object] = _ := valuesByKey_skeleton [object]
  rw [fieldsOfSample, fieldsOfSample, hgroups, fieldsOf_skeleton (walk_skeleton walkBudget).1]

end Shape

/-! ## Samples of one skeleton -/

theorem Sample.ofObject_skeleton (name : String) (object : Object) (names : FieldNames) :
    ofObject name (Json.memberSkeletons object) names = ofObject name object names := by
  rw [ofObject, ofObject, Shape.fieldsOfSample_skeleton]

/-- **Objects of one skeleton lead to the same**, as long as they are not
read as forms. -/
theorem Sample.infer_eq_of_sameSkeleton {source source' : String}
    (h : Json.SameSkeleton source source') {mime : Option String}
    (hmime : isFormMimeType mime = false) (name : String) (names : FieldNames) :
    infer name (.text source) mime names = infer name (.text source') mime names := by
  obtain ⟨members, members', hparse, hparse', hskeleton⟩ := h
  have hobject : ofObject name members names = ofObject name members' names := by
    rw [← ofObject_skeleton, ← ofObject_skeleton name members']
    exact congrArg (ofObject name · names) (Json.object.inj hskeleton)
  simp only [infer, hmime, Bool.false_eq_true, if_false, ofText, hparse, hparse', ofJson]
  exact hobject

end TypedTraffic
