import TypedTraffic.Json.Basic
import TypedTraffic.Naming.Identifier
import TypedTraffic.Ordered

/-!
# Shapes of samples

The shape of a sample is what is known of it without its scalars: which
keys its objects have, of what kind the values are, and how lists and
objects are nested. Several values seen in one place have one shape:
objects are merged key by key, and a key that some of them lack is
optional; the elements of several lists are taken together; null says
nothing unless nothing else is seen.

The walk has a budget. A list costs one unit for each level of nesting
and an object three, and a sample nested more deeply than the budget
allows has no shape; what is known then is which keys were met before
the budget ran out.
-/

namespace TypedTraffic

open Naming

/-- **The shape of a sample.** -/
inductive Shape where
  /-- Nothing is known, or values of several kinds were seen. -/
  | any
  /-- Truth values. -/
  | boolean
  /-- Numbers. -/
  | number
  /-- Strings. -/
  | string
  /-- Lists with elements of one shape. -/
  | array (element : Shape)
  /-- Objects: each key, whether it may be absent, and the shape of its
  values. -/
  | record (fields : List (SourceName × Bool × Shape))

/-- The members of an object. -/
abbrev Object := List (SourceName × Json)

namespace Shape

mutual

/-- **The keys of a shape**, each before the keys inside its values. -/
def keys : Shape → List SourceName
  | .any => []
  | .boolean => []
  | .number => []
  | .string => []
  | .array element => element.keys
  | .record fields => keysOfFields fields
  termination_by structural s => s

/-- The keys of the fields of a record and of the values inside. -/
def keysOfFields : List (SourceName × Bool × Shape) → List SourceName
  | [] => []
  | (key, _, shape) :: fields => key :: (shape.keys ++ keysOfFields fields)
  termination_by structural fields => fields

end

/-- The budget ran out: the keys met until then, in order. -/
structure TooDeep where
  /-- The keys. -/
  met : List SourceName

/-- A shape, unless the sample is nested too deeply. -/
abbrev Result (α : Type) := Except TooDeep α

/-- Apply a function to a shape that was found. -/
def Result.map {α β : Type} (f : α → β) : Result α → Result β
  | .ok x => .ok (f x)
  | .error e => .error e

/-- The values several objects have under one key. -/
def valuesUnder (key : SourceName) (objects : List Object) : List Json :=
  objects.flatMap fun object => (object.filter fun member => member.1 = key).map Prod.snd

/-- **The values of several objects by key**, keys in order of first
appearance. -/
def valuesByKey (objects : List Object) : List (SourceName × List Json) :=
  (Ordered.distinct (objects.flatMap fun object => object.map Prod.fst)).map
    fun key => (key, valuesUnder key objects)

/-- The fields of a record, from the values of each key; `count` is the
number of objects that are merged. -/
def fieldsOf (shapeOf : List Json → Result Shape) (count : Nat) :
    List (SourceName × List Json) → Result (List (SourceName × Bool × Shape))
  | [] => .ok []
  | (key, values) :: groups =>
    match shapeOf values with
    | .error e => .error ⟨key :: e.met⟩
    | .ok shape =>
      match fieldsOf shapeOf count groups with
      | .error e => .error ⟨key :: (shape.keys ++ e.met)⟩
      | .ok fields => .ok ((key, values.length < count, shape) :: fields)

/-- The one kind that all values of a list have. -/
def commonKind? : List Json → Option Json.Kind
  | [] => none
  | value :: values => if values.all (·.kind = value.kind) then some value.kind else none

/-- The objects among some values. -/
def objectsAmong (values : List Json) : List Object := values.filterMap Json.members?

/-- The elements of the lists among some values. -/
def elementsAmong (values : List Json) : List Json := (values.filterMap Json.items?).flatten

mutual

/-- **The shape of the values of one place.** The first value that is not
null decides the kind; values of other kinds are left out. -/
def ofValues : Nat → List Json → Result Shape
  | 0, _ => .error ⟨[]⟩
  | budget + 1, values =>
    match values.filter (·.kind ≠ .null) with
    | [] => .ok .any
    | value :: values =>
      match value.kind with
      | .null => .ok .any
      | .boolean => .ok .boolean
      | .number => .ok .number
      | .string => .ok .string
      | .array => (ofElements budget (elementsAmong (value :: values))).map .array
      | .object => ofObjects budget (objectsAmong (value :: values))

/-- **The shape of the elements of a list**, which is known only if all
of them are of one kind. -/
def ofElements : Nat → List Json → Result Shape
  | 0, _ => .error ⟨[]⟩
  | budget + 1, elements =>
    match commonKind? elements with
    | none => .ok .any
    | some .null => .ok .any
    | some .boolean => .ok .boolean
    | some .number => .ok .number
    | some .string => .ok .string
    | some .array => (ofElements budget (elementsAmong elements)).map .array
    | some .object => ofObjects budget (objectsAmong elements)

/-- **The shape of several objects merged.** -/
def ofObjects : Nat → List Object → Result Shape
  | 0, _ => .error ⟨[]⟩
  | 1, _ => .error ⟨[]⟩
  | budget + 2, objects =>
    (fieldsOf (ofValues budget) objects.length (valuesByKey objects)).map .record

end

/-- The budget of the walk over one sample. -/
def walkBudget : Nat := 960

/-- The fields of one sample. -/
def fieldsOfSample (object : Object) : Result (List (SourceName × Bool × Shape)) :=
  fieldsOf (ofValues walkBudget) 1 (valuesByKey [object])

end Shape

end TypedTraffic
