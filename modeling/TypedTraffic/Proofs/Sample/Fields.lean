import TypedTraffic.Proofs.Json.Keyed
import TypedTraffic.Proofs.Sample.Reading
import TypedTraffic.Proofs.Shape.Merged

/-!
# The fields of a sample

The fields of an interface stand for keys: one field for each key, in
order of first appearance, under the name that the table of field names
has for the key (`FieldsFor`). As the table is one-to-one, the names are
pairwise different, although they are made by leaving out and replacing
characters (`fieldsFor_of_eq`); and as a key keeps its name, this is still
so when more fields are named (`FieldsFor.nameFields`).

Forms put fields into a map under their names, not under their keys; since
no two keys have one name, no field is lost (`fieldsFor_pairs`). The
interfaces of a JSON object stand for the keys of the objects that are
merged into them (`fielded_object`). So every sample has the fields it
should have (`fielded_read`).
-/

namespace TypedTraffic

open Naming

/-- **Fields that stand for keys**, some of which are optional. -/
structure FieldsFor (names : FieldNames) (keys : List SourceName) (optional : SourceName → Bool)
    (fields : List Field) : Prop where
  /-- No key is there twice. -/
  distinct : keys.Nodup
  /-- Every key has a name in the table. -/
  named : ∀ key ∈ keys, ∃ name, names.find? key = some name
  /-- The fields have the names of the keys, in order, and are optional as
  the keys are. -/
  aligned : fields.map (fun f => (f.name, f.optional))
    = keys.map fun key => (names.fieldName key, optional key)
  /-- No two fields have one name. -/
  nodup : (fields.map Field.name).Nodup
  /-- The names are identifiers. -/
  identifiers : ∀ f ∈ fields, isIdentifier f.name = true

namespace Naming.FieldNames

/-- A key that has a name keeps it. -/
theorem fieldName_nameFields {names : FieldNames} {key : SourceName} {name : String}
    (h : names.find? key = some name) (more : List SourceName) :
    (names.nameFields more).fieldName key = names.fieldName key := by
  rw [fieldName, fieldName, h, find?_nameFields h more]

/-- **No two keys have one name.** -/
theorem Reachable.fieldName_inj {names : FieldNames} (h : names.Reachable)
    {key key' : SourceName} {name name' : String} (hkey : names.find? key = some name)
    (hkey' : names.find? key' = some name') (heq : names.fieldName key = names.fieldName key') :
    key = key' := by
  rw [fieldName, fieldName, hkey, hkey', Option.getD_some, Option.getD_some] at heq
  exact h.faithful.source_eq hkey (heq ▸ hkey')

end Naming.FieldNames

section FieldsFor

variable {names : FieldNames} {keys : List SourceName} {optional : SourceName → Bool}
  {fields : List Field}

/-- **Fields with the names of keys stand for them**, in a table that has
come about by naming fields. -/
theorem fieldsFor_of_eq (h : names.Reachable) (hkeys : keys.Nodup)
    (hnamed : ∀ key ∈ keys, ∃ name, names.find? key = some name)
    (hfields : fields.map (fun f => (f.name, f.optional))
      = keys.map fun key => (names.fieldName key, optional key)) :
    FieldsFor names keys optional fields := by
  have hnames : fields.map Field.name = keys.map names.fieldName := by
    have hfirst := congrArg (List.map Prod.fst) hfields
    rw [List.map_map, List.map_map] at hfirst
    exact hfirst
  refine ⟨hkeys, hnamed, hfields, ?_, fun f hf => ?_⟩
  · rw [hnames]
    refine hkeys.map_on fun key hkey key' hkey' heq => ?_
    obtain ⟨name, hname⟩ := hnamed key hkey
    obtain ⟨name', hname'⟩ := hnamed key' hkey'
    exact h.fieldName_inj hname hname' heq
  · have hf' : f.name ∈ keys.map names.fieldName := hnames ▸ List.mem_map_of_mem hf
    obtain ⟨key, -, heq⟩ := List.mem_map.mp hf'
    rw [← heq]
    exact h.isIdentifier_fieldName key

/-- **Fields go on standing for their keys** when more fields are named. -/
theorem FieldsFor.nameFields (h : FieldsFor names keys optional fields) (more : List SourceName) :
    FieldsFor (names.nameFields more) keys optional fields where
  distinct := h.distinct
  named key hkey := by
    obtain ⟨name, hname⟩ := h.named key hkey
    exact ⟨name, FieldNames.find?_nameFields hname more⟩
  aligned := by
    rw [h.aligned]
    refine List.map_congr_left fun key hkey => ?_
    obtain ⟨name, hname⟩ := h.named key hkey
    rw [FieldNames.fieldName_nameFields hname more]
  nodup := h.nodup
  identifiers := h.identifiers

end FieldsFor

/-- The keys of some pairs, in order of first appearance. -/
def pairKeys (pairs : List Form.Pair) : List SourceName :=
  (Ordered.distinct (pairs.map Prod.fst)).map codePoints

theorem nodup_pairKeys (pairs : List Form.Pair) : (pairKeys pairs).Nodup :=
  (Ordered.nodup_distinct _).map fun _ _ h => codePoints_injective h

theorem mem_pairKeys {pairs : List Form.Pair} {key : SourceName} :
    key ∈ pairKeys pairs ↔ key ∈ pairs.map fun pair => codePoints pair.1 := by
  simp [pairKeys, Ordered.mem_distinct]

namespace Sample

/-! ## What a sample is read as -/

/-- **A text that is read as a form**: one that is declared to be a form,
or one that is not JSON. -/
inductive IsForm (text : String) : Option String → List Form.Pair → Prop
  /-- It is declared to be a form. -/
  | declared {mime : Option String} {pairs : List Form.Pair} : isFormMimeType mime = true →
    Form.pairs .lenient text = .ok pairs → IsForm text mime pairs
  /-- It is not JSON. -/
  | undeclared {mime : Option String} {pairs : List Form.Pair} {e : Json.Error} :
    isFormMimeType mime = false → Json.parse text = .error e →
      Form.pairs .strict text = .ok pairs → IsForm text mime pairs

/-- **A text that is read as a JSON object**: one that is JSON and not
declared to be a form. -/
def IsObject (text : String) (mime : Option String) (members : Object) : Prop :=
  isFormMimeType mime = false ∧ Json.parse text = .ok (.object members)

/-- **An auxiliary interface of merged objects**: objects of the sample that
stand under a key are merged into it. -/
structure MergedInto (names : FieldNames) (members : Object) (root : String)
    (auxiliary : List Interface) (i : Interface) (key : SourceName) (os : List Object) : Prop where
  /-- The walk gets to the objects under the key. -/
  under : Shape.VisitsUnder members key (.objects os)
  /-- The fields stand for the keys of the objects, and those that are
  missing from one of them are optional. -/
  fields : FieldsFor names (Shape.keysAmong os) (Shape.missing os) i.fields
  /-- The interface is named after the key, apart from the root and the
  interfaces in front of it. -/
  name : ∃ earlier, earlier ++ [i] <+: auxiliary
    ∧ i.name = (Layout.mk root names.fieldName).auxiliaryName key earlier

/-- **A definition with the fields of a sample.** -/
inductive Fielded (names : FieldNames) (text : String) (mime : Option String) : Definition → Prop
  /-- A form has a field for each key, and none is optional. -/
  | form {pairs : List Form.Pair} {root : Interface} : IsForm text mime pairs →
    FieldsFor names (pairKeys pairs) (fun _ => false) root.fields →
      Fielded names text mime (.interfaces root [])
  /-- The root of a JSON object has a field for each of its keys, and objects
  are merged into every auxiliary interface. -/
  | object {members : Object} {root : Interface} {auxiliary : List Interface} :
    IsObject text mime members →
    FieldsFor names (Shape.keysAmong [members]) (Shape.missing [members]) root.fields →
    (∀ i ∈ auxiliary, ∃ key os, MergedInto names members root.name auxiliary i key os) →
      Fielded names text mime (.interfaces root auxiliary)
  /-- Without a pair of a form, and with a JSON object only if it is nested
  too deeply, there are no fields. -/
  | unknown (name : String) (target : AliasTarget) :
    (∀ pairs, IsForm text mime pairs → pairs = []) →
    (∀ members, IsObject text mime members → ∃ e, Shape.fieldsOfSample members = .error e) →
      Fielded names text mime (.alias name target)

/-- **A sample goes on having its fields** when more fields are named. -/
theorem Fielded.nameFields {names : FieldNames} {text : String} {mime : Option String}
    {d : Definition} (h : Fielded names text mime d) (more : List SourceName) :
    Fielded (names.nameFields more) text mime d := by
  cases h with
  | form hform hfields => exact Fielded.form hform (hfields.nameFields more)
  | object hobject hroot hauxiliary =>
    refine Fielded.object hobject (hroot.nameFields more) fun i hi => ?_
    obtain ⟨key, os, hmerged⟩ := hauxiliary i hi
    exact ⟨key, os, hmerged.under, hmerged.fields.nameFields more, hmerged.name⟩
  | unknown name target hform hobject => exact Fielded.unknown name target hform hobject

/-! ## Forms -/

/-- **The fields of pairs stand for their keys**, if the keys have names:
what is put under the name of a key is put under the key. -/
theorem fieldsFor_pairs {names : FieldNames} (h : names.Reachable) (pairs : List Form.Pair)
    (hnamed : ∀ key ∈ pairKeys pairs, ∃ name, names.find? key = some name) :
    FieldsFor names (pairKeys pairs) (fun _ => false)
      ((pairs.foldl (Reading.putPair names.fieldName) []).map
        fun (field, type) => ⟨field, type, false⟩) := by
  refine fieldsFor_of_eq h (nodup_pairKeys pairs) hnamed ?_
  have hinj : ∀ key ∈ pairs.map Prod.fst, ∀ key' ∈ pairs.map Prod.fst,
      names.fieldName (codePoints key) = names.fieldName (codePoints key') → key = key' := by
    have hkeys : ∀ key ∈ pairs.map Prod.fst, codePoints key ∈ pairKeys pairs := fun key hkey =>
      List.mem_map_of_mem (Ordered.mem_distinct.mpr hkey)
    intro key hkey key' hkey' heq
    obtain ⟨name, hname⟩ := hnamed _ (hkeys key hkey)
    obtain ⟨name', hname'⟩ := hnamed _ (hkeys key' hkey')
    exact codePoints_injective (h.fieldName_inj hname hname' heq)
  have hfields := congrArg (List.map fun name => (name, false)) (Reading.map_fst_putPairs hinj)
  rw [List.map_map, List.map_map] at hfields
  rw [List.map_map, pairKeys, List.map_map]
  exact hfields

/-- What is read in the pairs of a form has fields for their keys. -/
theorem fielded_readPairs {names : FieldNames} (h : names.Reachable) (root : String)
    {text : String} {mime : Option String} {mode : Form.Mode} (otherwise : AliasTarget)
    (hform : ∀ pairs, IsForm text mime pairs ↔ Form.pairs mode text = .ok pairs)
    (hobject : ∀ members, ¬ IsObject text mime members) :
    Fielded (names.nameFields (readPairs mode text otherwise).keys) text mime
      ((readPairs mode text otherwise).definition root
        (names.nameFields (readPairs mode text otherwise).keys).fieldName) := by
  have hnone : ∀ members, IsObject text mime members →
      ∃ e, Shape.fieldsOfSample members = .error e := fun members hmembers =>
    absurd hmembers (hobject members)
  unfold readPairs
  split
  · rename_i pair pairs hpairs
    refine Fielded.form ((hform _).mpr hpairs) (fieldsFor_pairs (h.nameFields _) _ fun key hkey => ?_)
    exact FieldNames.exists_find?_nameFields names (mem_pairKeys.mp hkey)
  · rename_i hpairs
    refine Fielded.unknown root otherwise (fun pairs hpair => ?_) hnone
    cases pairs with
    | nil => rfl
    | cons pair pairs => exact absurd ((hform _).mp hpair) (hpairs pair pairs)

/-! ## JSON objects -/

/-- **The fields that a record is laid out as** stand for the keys of the
objects that are merged into it. -/
theorem fieldsFor_laidOutAs {names : FieldNames} (h : names.Reachable) {os : List Object}
    {fields : List (SourceName × Bool × Shape)} (hmerges : Shape.Merges os fields)
    (hnamed : ∀ f ∈ fields, ∃ name, names.find? f.1 = some name) {root : String}
    {fs : List Field} (hlaid : (Layout.mk root names.fieldName).LaidOutAs fields fs) :
    FieldsFor names (Shape.keysAmong os) (Shape.missing os) fs := by
  have hkeys : fields.map Prod.fst = Shape.keysAmong os := by
    have hfirst := congrArg (List.map Prod.fst) hmerges
    rw [List.map_map, List.map_map] at hfirst
    exact hfirst.trans (List.map_id _)
  refine fieldsFor_of_eq h (Ordered.nodup_distinct _) (fun key hkey => ?_) ?_
  · rw [← hkeys] at hkey
    obtain ⟨f, hf, rfl⟩ := List.mem_map.mp hkey
    exact hnamed f hf
  · have hpairs := congrArg (List.map fun p => (names.fieldName p.1, p.2)) hmerges
    rw [List.map_map, List.map_map] at hpairs
    exact hlaid.trans hpairs

/-- **The interfaces of a JSON object** have fields for the keys of the
objects that are merged into them. -/
theorem fielded_readObject {names : FieldNames} (h : names.Reachable) (root : String)
    {text : String} {mime : Option String} {members : Object}
    (hobject : IsObject text mime members) :
    Fielded (names.nameFields (readObject members).keys) text mime
      ((readObject members).definition root
        (names.nameFields (readObject members).keys).fieldName) := by
  have hform : ∀ pairs, IsForm text mime pairs → pairs = [] := by
    intro pairs hpairs
    cases hpairs with
    | declared hmime => cases hobject.1.symm.trans hmime
    | undeclared _ hparse => cases hobject.2.symm.trans hparse
  have hkeyed := Json.keyed_of_parse hobject.2
  unfold readObject
  cases hshape : Shape.fieldsOfSample members with
  | error e =>
    refine Fielded.unknown root .any hform fun other hother => ?_
    obtain rfl : members = other := by
      have heq := hobject.2.symm.trans hother.2
      cases heq
      rfl
    exact ⟨e, hshape⟩
  | ok fields =>
    obtain ⟨hroot, hinside⟩ := Shape.recorded_fieldsOfSample hkeyed hshape
    set after := names.nameFields (Reading.object fields).keys with hafter
    have hnamed : ∀ key ∈ Shape.keysOfFields fields, ∃ name, after.find? key = some name :=
      fun key hkey => FieldNames.exists_find?_nameFields names hkey
    obtain ⟨top, auxiliary, hdefinition, hname, hlaid, hmade⟩ :=
      (Layout.mk root after.fieldName).made_definition hinside
    have hfields : (Reading.object fields).definition root after.fieldName
        = .interfaces top auxiliary := hdefinition
    rw [hfields]
    have hreach : after.Reachable := h.nameFields _
    refine Fielded.object hobject (fieldsFor_laidOutAs hreach hroot
      (fun f hf => hnamed f.1 (Layout.mem_keys_of_mem hf)) hlaid) fun i hi => ?_
    obtain ⟨key, inner, earlier, ⟨os, hos, hmerges⟩, hkeys, hinner, hearlier, hi⟩ := hmade i hi
    refine ⟨key, os, hos, ?_, earlier, hearlier, ?_⟩
    · exact fieldsFor_laidOutAs hreach hmerges (fun f hf => hnamed f.1 (hkeys f hf)) hinner
    · rw [hi, hname]

/-- A JSON value that is no object has no fields. -/
theorem fielded_unknown {names : FieldNames} {text : String} {mime : Option String} {json : Json}
    (hmime : isFormMimeType mime = false) (hparse : Json.parse text = .ok json)
    (hjson : ∀ members, json ≠ .object members) (root : String) (target : AliasTarget) :
    Fielded names text mime (.alias root target) := by
  refine Fielded.unknown root target (fun pairs hform => ?_) fun members hobject => ?_
  · cases hform with
    | declared hmime' => cases hmime.symm.trans hmime'
    | undeclared _ herror => cases hparse.symm.trans herror
  · exact absurd (Except.ok.inj (hparse.symm.trans hobject.2)) (hjson members)

/-! ## Samples -/

/-- A text that is declared to be a form has its fields. -/
theorem fielded_readForm {names : FieldNames} (h : names.Reachable) (root text : String)
    {mime : Option String} (hmime : isFormMimeType mime = true) :
    Fielded (names.nameFields (readForm (.text text)).keys) text mime
      ((readForm (.text text)).definition root
        (names.nameFields (readForm (.text text)).keys).fieldName) := by
  refine fielded_readPairs h root .textRecord (fun pairs => ⟨fun hform => ?_, fun hpairs => ?_⟩)
    fun members hobject => ?_
  · cases hform with
    | declared _ hpairs => exact hpairs
    | undeclared hnot => cases hmime.symm.trans hnot
  · exact IsForm.declared hmime hpairs
  · cases hmime.symm.trans hobject.1

/-- A text that may be JSON or a form has its fields. -/
theorem fielded_readText {names : FieldNames} (h : names.Reachable) (root text : String)
    {mime : Option String} (hmime : isFormMimeType mime = false) :
    Fielded (names.nameFields (readText text).keys) text mime
      ((readText text).definition root (names.nameFields (readText text).keys).fieldName) := by
  unfold readText
  cases hparse : Json.parse text with
  | ok json =>
    cases json with
    | object members => exact fielded_readObject h root ⟨hmime, hparse⟩
    | _ => exact fielded_unknown hmime hparse (fun _ heq => nomatch heq) root .any
  | error e =>
    refine fielded_readPairs h root .any (fun pairs => ⟨fun hform => ?_, fun hpairs => ?_⟩)
      fun members hobject => ?_
    · cases hform with
      | declared hmime' => cases hmime.symm.trans hmime'
      | undeclared _ _ hpairs => exact hpairs
    · exact IsForm.undeclared hmime hparse hpairs
    · cases hparse.symm.trans hobject.2

/-- **Every sample has its fields**, under the names that are there when it
is read. -/
theorem fielded_read {names : FieldNames} (h : names.Reachable) (root text : String)
    (mime : Option String) :
    Fielded (names.nameFields (read (.text text) mime).keys) text mime
      ((read (.text text) mime).definition root
        (names.nameFields (read (.text text) mime).keys).fieldName) := by
  unfold read
  by_cases hmime : isFormMimeType mime = true
  · rw [if_pos hmime]
    exact fielded_readForm h root text hmime
  · rw [if_neg hmime]
    exact fielded_readText h root text (Bool.eq_false_iff.mpr hmime)

end Sample

end TypedTraffic
