import TypedTraffic.Proofs.Naming.Assigned
import TypedTraffic.Proofs.Shape.Laid
import TypedTraffic.Session.Basic

/-!
# What is read in a sample

A sample is first read and then named. What is read in it, its
**reading**, depends on the sample alone: the pairs of a form, the fields
of a JSON object, or that nothing is known. The names of fields after the
sample are those before it with the keys of the reading named in order,
and its definition is the reading laid out under the name of its root in
the names that are left (`reads_infer`). Query parameters are read and
named in the same way (`paramFields_eq`).

So the name of the root makes no difference to the names of fields, and
what was named before a sample makes no difference to its definition
apart from the names its keys have in the end.
-/

namespace TypedTraffic

open Naming

/-- **What is read in a sample** before anything is named. -/
inductive Reading where
  /-- The keys of query parameters. -/
  | query (keys : List String)
  /-- The pairs of a form. -/
  | form (pairs : List Form.Pair)
  /-- The fields of a JSON object. -/
  | object (fields : List (SourceName × Bool × Shape))
  /-- Nothing is known but some keys that were met. -/
  | unknown (target : AliasTarget) (met : List SourceName)

namespace Reading

/-- **The keys of a reading**, in the order in which they are named. -/
def keys : Reading → List SourceName
  | .query keys => keys.map codePoints
  | .form pairs => pairs.map fun pair => codePoints pair.1
  | .object fields => Shape.keysOfFields fields
  | .unknown _ met => met

/-- The fields of a form by name, with those of one pair more. -/
def putPair (fieldName : SourceName → String) (fields : List (String × TypeExpr))
    (pair : Form.Pair) : List (String × TypeExpr) :=
  Ordered.put (fieldName (codePoints pair.1)) (Sample.formValueType pair.2) fields

/-- **The definition of a reading** under the name of its root, from the
names of its keys. -/
def definition (root : String) (fieldName : SourceName → String) : Reading → Definition
  | .query keys =>
    .interfaces ⟨root, keys.map fun key => ⟨fieldName (codePoints key), .queryValue, true⟩⟩ []
  | .form pairs =>
    .interfaces ⟨root, (pairs.foldl (putPair fieldName) []).map
      fun (field, type) => ⟨field, type, false⟩⟩ []
  | .object fields => (Layout.mk root fieldName).definition fields
  | .unknown target _ => .alias root target

end Reading

/-! ## The definition of a reading -/

theorem Sample.reference?_formValueType (value : String) :
    (formValueType value).reference? = none := by
  unfold formValueType
  split
  · rfl
  · split <;> rfl

namespace Reading

/-- Every field of a form is that of a pair. -/
theorem exists_of_mem_putPairs {fieldName : SourceName → String} {fields : List (String × TypeExpr)}
    {pairs : List Form.Pair} {f : String × TypeExpr} (h : f ∈ pairs.foldl (putPair fieldName) fields) :
    f ∈ fields ∨ ∃ pair ∈ pairs,
      f = (fieldName (codePoints pair.1), Sample.formValueType pair.2) := by
  induction pairs generalizing fields with
  | nil => exact Or.inl h
  | cons pair pairs ih =>
    rcases ih h with hput | ⟨other, hother, heq⟩
    · refine (Ordered.mem_put hput).symm.imp_right fun heq => ?_
      exact ⟨pair, List.mem_cons_self, heq⟩
    · exact Or.inr ⟨other, List.mem_cons_of_mem _ hother, heq⟩

/-- **The fields of a form have the names of its keys**, in order of first
appearance, if no two keys have one name. -/
theorem map_fst_putPairs {fieldName : SourceName → String} {pairs : List Form.Pair}
    (hinj : ∀ key ∈ pairs.map Prod.fst, ∀ key' ∈ pairs.map Prod.fst,
      fieldName (codePoints key) = fieldName (codePoints key') → key = key') :
    (pairs.foldl (putPair fieldName) []).map Prod.fst
      = (Ordered.distinct (pairs.map Prod.fst)).map fun key => fieldName (codePoints key) := by
  have hnames := Ordered.map_fst_foldl_put
    (fun pair : Form.Pair => fieldName (codePoints pair.1))
    (fun pair => Sample.formValueType pair.2) pairs
  rw [← Ordered.distinct_map hinj, List.map_map]
  exact hnames

/-- **The definition of a reading is rooted** in its root, if the names of
fields are identifiers. -/
theorem rooted_definition {fieldName : SourceName → String}
    (hnames : ∀ key, isIdentifier (fieldName key) = true) (root : String) (reading : Reading) :
    (reading.definition root fieldName).Rooted root := by
  cases reading with
  | query keys =>
    refine Definition.rooted_of_reference?_eq_none root (fun f hf => ?_) fun f hf => ?_ <;>
      obtain ⟨key, -, rfl⟩ := List.mem_map.mp hf
    · exact hnames _
    · rfl
  | form pairs =>
    have hpairs : ∀ f ∈ pairs.foldl (putPair fieldName) [], ∃ pair ∈ pairs,
        f = (fieldName (codePoints pair.1), Sample.formValueType pair.2) :=
      fun f hf => (exists_of_mem_putPairs hf).resolve_left List.not_mem_nil
    refine Definition.rooted_of_reference?_eq_none root (fun f hf => ?_) fun f hf => ?_ <;>
      obtain ⟨g, hg, rfl⟩ := List.mem_map.mp hf <;> obtain ⟨pair, -, rfl⟩ := hpairs g hg
    · exact hnames _
    · exact Sample.reference?_formValueType _
  | object fields => exact Layout.rooted_definition (l := ⟨root, fieldName⟩) hnames fields
  | unknown target met => exact Definition.rooted_alias root target

end Reading

/-! ## Forms and query parameters -/

theorem Sample.formFields_eq (names : FieldNames) (fields : List (String × TypeExpr))
    (pairs : List Form.Pair) :
    formFields names fields pairs
      = (pairs.foldl (Reading.putPair (names.nameFields (Reading.form pairs).keys).fieldName) fields,
          names.nameFields (Reading.form pairs).keys) := by
  induction pairs generalizing names fields with
  | nil => rfl
  | cons pair pairs ih =>
    obtain ⟨key, value⟩ := pair
    have hname := names.nameField_eq_fieldName (codePoints key) (Reading.form pairs).keys
    rw [formFields]
    simp only [ih, hname]
    rfl

/-- **The fields for query parameters**, and the names after them. -/
theorem Session.paramFields_eq (names : FieldNames) (keys : List String) :
    paramFields names keys
      = (keys.map fun key => ⟨(names.nameFields (Reading.query keys).keys).fieldName
          (codePoints key), .queryValue, true⟩,
          names.nameFields (Reading.query keys).keys) := by
  induction keys generalizing names with
  | nil => rfl
  | cons key keys ih =>
    have hname := names.nameField_eq_fieldName (codePoints key) (Reading.query keys).keys
    rw [paramFields]
    simp only [ih, hname]
    rfl

namespace Sample

/-! ## Reading samples -/

/-- What is read in the pairs of a form, if there are any. -/
def readPairs (mode : Form.Mode) (source : String) (otherwise : AliasTarget) : Reading :=
  match Form.pairs mode source with
  | .ok (pair :: pairs) => .form (pair :: pairs)
  | _ => .unknown otherwise []

/-- What is read in a form sample. -/
def readForm : Payload → Reading
  | .value _ => .unknown .any []
  | .text source => readPairs .lenient source .textRecord

/-- What is read in a JSON object. -/
def readObject (object : Object) : Reading :=
  match Shape.fieldsOfSample object with
  | .error e => .unknown .any e.met
  | .ok fields => .object fields

/-- What is read in a JSON value. -/
def readJson : Json → Reading
  | .object object => readObject object
  | _ => .unknown .any []

/-- What is read in a text that may be JSON or a form. -/
def readText (source : String) : Reading :=
  match Json.parse source with
  | .ok json => readJson json
  | .error _ => readPairs .strict source .any

/-- **What is read in a sample.** -/
def read (payload : Payload) (mime : Option String) : Reading :=
  if isFormMimeType mime then readForm payload
  else
    match payload with
    | .text source => readText source
    | .value json => readJson json

/-- **A sample that leads to its reading**, laid out under a name in the
names after the sample. -/
structure Reads (reading : Reading) (name : String) (names : FieldNames) (i : Inference) :
    Prop where
  /-- The keys of the reading are named. -/
  names : i.names = names.nameFields reading.keys
  /-- The definition is that of the reading. -/
  definition : i.definition = reading.definition name i.names.fieldName

variable (name : String) (names : FieldNames)

/-- Of a form either the pairs are read, or nothing is. -/
theorem formInterface_cases (mode : Form.Mode) (source : String) (otherwise : AliasTarget) :
    (∃ i after, formInterface mode name source names = .ok (i, after)
      ∧ ∀ notice, Reads (readPairs mode source otherwise) name names
          ⟨.interfaces i [], notice, after⟩)
    ∨ ∃ e, formInterface mode name source names = .error e
      ∧ readPairs mode source otherwise = .unknown otherwise [] := by
  unfold formInterface readPairs
  rcases Form.pairs mode source with e | pairs
  · exact Or.inr ⟨e, rfl, rfl⟩
  · cases pairs with
    | nil => exact Or.inr ⟨.noFields, rfl, rfl⟩
    | cons pair pairs =>
      simp only [formFields_eq]
      exact Or.inl ⟨_, _, rfl, fun _ => ⟨rfl, rfl⟩⟩

theorem reads_ofForm (payload : Payload) :
    Reads (readForm payload) name names (ofForm name payload names) := by
  cases payload with
  | value json => exact ⟨rfl, rfl⟩
  | text source =>
    rw [ofForm, readForm]
    rcases formInterface_cases name names .lenient source .textRecord with
      ⟨i, after, heq, hreads⟩ | ⟨e, heq, hreading⟩
    · rw [heq]
      exact hreads none
    · rw [heq, hreading]
      exact ⟨rfl, rfl⟩

theorem reads_ofObject (object : Object) :
    Reads (readObject object) name names (ofObject name object names) := by
  unfold readObject ofObject
  cases Shape.fieldsOfSample object with
  | error e => exact ⟨rfl, rfl⟩
  | ok fields => exact ⟨rfl, rfl⟩

theorem reads_ofJson (json : Json) :
    Reads (readJson json) name names (ofJson name json names) := by
  cases json with
  | object object => exact reads_ofObject name names object
  | _ => exact ⟨rfl, rfl⟩

theorem reads_ofText (source : String) :
    Reads (readText source) name names (ofText name source names) := by
  unfold readText ofText
  cases Json.parse source with
  | ok json => exact reads_ofJson name names json
  | error e =>
    rcases formInterface_cases name names .strict source .any with
      ⟨i, after, heq, hreads⟩ | ⟨e', heq, hreading⟩
    · simp only [heq]
      exact hreads none
    · simp only [heq, hreading]
      exact ⟨rfl, rfl⟩

/-- **Every sample leads to its reading**, whatever has a name before. -/
theorem reads_infer (payload : Payload) (mime : Option String) :
    Reads (read payload mime) name names (infer name payload mime names) := by
  unfold read infer
  split
  · exact reads_ofForm name names payload
  · cases payload with
    | text source => exact reads_ofText name names source
    | value json => exact reads_ofJson name names json

end Sample

end TypedTraffic
