import Mathlib.Data.List.Forall2
import Mathlib.Data.List.Induction
import TypedTraffic.Proofs.Form.Pieces
import TypedTraffic.Proofs.Naming.Stable
import TypedTraffic.Proofs.Sample.Value

/-!
# The interface of a form

A form has an interface unless it is refused, and a form that is refused
leaves the table of field names as it is. The interface has one field for
each key, in order of first occurrence, under the name that the table has
for the key (`formInterface_after`). Its type is that of the last value of
the key.

The fields are put into a map under their names, and two keys may ask for
one name. But the table gives them two names, so a value only ever replaces
a value of the same key (`forall₂_fieldsOfPieces`). All that is needed of
the table is that it is in step with itself, which it is after any steps.
-/

namespace TypedTraffic

open Naming Form

/-! ## Maps that are put together -/

namespace Ordered

variable {α β γ : Type} [DecidableEq α]

/-- A value that is put under a key replaces the one that is there. -/
theorem mem_put_of_nodup {key : α} {value : β} {pairs : List (α × β)}
    (hnodup : (pairs.map Prod.fst).Nodup) {p : α × β} (h : p ∈ put key value pairs) :
    p = (key, value) ∨ p ∈ pairs ∧ p.1 ≠ key := by
  induction pairs with
  | nil => exact Or.inl (List.mem_singleton.mp h)
  | cons q qs ih =>
    obtain ⟨hq, hqs⟩ := List.nodup_cons.mp hnodup
    rw [put] at h
    split at h
    · rename_i hkey
      rcases List.mem_cons.mp h with rfl | h
      · exact Or.inl rfl
      · refine Or.inr ⟨List.mem_cons_of_mem _ h, fun heq => hq ?_⟩
        rw [hkey, ← heq]
        exact List.mem_map_of_mem h
    · rename_i hkey
      rcases List.mem_cons.mp h with rfl | h
      · exact Or.inr ⟨List.mem_cons_self, hkey⟩
      · exact (ih hqs h).imp_right fun hold => ⟨List.mem_cons_of_mem _ hold.1, hold.2⟩

/-- **A map that is put together** has under each key what was put there
last. -/
theorem exists_last_of_mem_foldl_put {key : γ → α} {value : γ → β} {xs : List γ} {p : α × β}
    (h : p ∈ xs.foldl (fun pairs x => put (key x) (value x) pairs) []) :
    ∃ earlier x later, xs = earlier ++ x :: later ∧ p = (key x, value x)
      ∧ ∀ y ∈ later, key y ≠ key x := by
  induction xs using List.reverseRecOn with
  | nil => exact absurd h List.not_mem_nil
  | append_singleton xs x ih =>
    rw [List.foldl_append] at h
    have hnodup : ((xs.foldl (fun pairs x => put (key x) (value x) pairs) []).map
        Prod.fst).Nodup := by
      rw [map_fst_foldl_put]
      exact nodup_distinct _
    rcases mem_put_of_nodup hnodup h with rfl | ⟨hold, hne⟩
    · exact ⟨xs, x, [], rfl, rfl, fun _ hy => absurd hy List.not_mem_nil⟩
    · obtain ⟨earlier, y, later, rfl, rfl, hlater⟩ := ih hold
      refine ⟨earlier, y, later ++ [x], by simp, rfl, fun z hz => ?_⟩
      rcases List.mem_append.mp hz with hz | hz
      · exact hlater z hz
      · rw [List.mem_singleton.mp hz]
        exact hne.symm

end Ordered

namespace Naming.FieldNames

/-- Naming fields keeps a table in step with itself. -/
theorem faithful_nameFields {names : FieldNames} (h : names.Faithful)
    (sources : List SourceName) : (names.nameFields sources).Faithful := by
  induction sources generalizing names with
  | nil => exact h
  | cons source sources ih => exact ih (h.assign source (fieldBase source))

end Naming.FieldNames

namespace Sample

/-! ## Fields and keys -/

/-- **A field that stands for a key of a form.** -/
structure StandsFor (names : FieldNames) (ps : List (List Char)) (f : Field) (key : String) :
    Prop where
  /-- The field has the name of the key. -/
  named : names.find? (codePoints key) = some f.name
  /-- The field is required. -/
  required : f.optional = false
  /-- The type of the field is that of the last value of the key. -/
  typed : ∃ earlier piece later, ps = earlier ++ piece :: later ∧ keyOf piece = key
    ∧ (∀ p ∈ later, keyOf p ≠ key) ∧ HasValueType (valueOf piece) f.type

/-- No two fields of a form have one name. -/
theorem nodup_fieldsOfPieces (fieldName : SourceName → String) (ps : List (List Char)) :
    ((fieldsOfPieces fieldName ps).map Field.name).Nodup := by
  have hkeys := Ordered.map_fst_foldl_put (fun p => fieldName (codePoints (keyOf p)))
    (fun p => formValueType (valueOf p)) ps
  rw [fieldsOfPieces, List.foldl_map, List.map_map]
  exact hkeys ▸ Ordered.nodup_distinct _

section Pieces

variable {names : FieldNames} (hfaithful : names.Faithful) {ps : List (List Char)}
  (hnamed : ∀ p ∈ ps, ∃ name, names.find? (codePoints (keyOf p)) = some name)

include hnamed

/-- A key of a piece has its name. -/
theorem find?_keyOf {p : List Char} (hp : p ∈ ps) :
    names.find? (codePoints (keyOf p)) = some (names.fieldName (codePoints (keyOf p))) := by
  obtain ⟨name, hname⟩ := hnamed p hp
  rw [FieldNames.fieldName, hname, Option.getD_some]

include hfaithful

/-- **The keys of two pieces** have one name only if they are one key. -/
theorem keyOf_eq_of_fieldName_eq {p q : List Char} (hp : p ∈ ps) (hq : q ∈ ps)
    (heq : names.fieldName (codePoints (keyOf p)) = names.fieldName (codePoints (keyOf q))) :
    keyOf p = keyOf q :=
  codePoints_injective
    (hfaithful.source_eq (find?_keyOf hnamed hp) (heq ▸ find?_keyOf hnamed hq))

/-- **The fields of pieces stand for their keys**, in order of first
occurrence. -/
theorem forall₂_fieldsOfPieces :
    List.Forall₂ (StandsFor names ps) (fieldsOfPieces names.fieldName ps)
      (Ordered.distinct (ps.map keyOf)) := by
  have hfirst : (ps.map fun p => (keyOf p, valueOf p)).map Prod.fst = ps.map keyOf := by
    rw [List.map_map]
    rfl
  have hinj : ∀ key ∈ (ps.map fun p => (keyOf p, valueOf p)).map Prod.fst,
      ∀ key' ∈ (ps.map fun p => (keyOf p, valueOf p)).map Prod.fst,
      names.fieldName (codePoints key) = names.fieldName (codePoints key') → key = key' := by
    simp only [hfirst, List.mem_map]
    rintro _ ⟨p, hp, rfl⟩ _ ⟨q, hq, rfl⟩ heq
    exact keyOf_eq_of_fieldName_eq hfaithful hnamed hp hq heq
  have hkeys := Reading.map_fst_putPairs hinj
  rw [hfirst, ← List.forall₂_eq_eq_eq, List.forall₂_map_left_iff,
    List.forall₂_map_right_iff] at hkeys
  obtain ⟨hlength, hzip⟩ := List.forall₂_iff_zip.mp hkeys
  rw [fieldsOfPieces, List.forall₂_map_left_iff]
  refine List.forall₂_iff_zip.mpr ⟨hlength, fun {entry key} hmem => ?_⟩
  obtain ⟨hentry, hkey⟩ := List.of_mem_zip hmem
  have hkey' : key ∈ ps.map keyOf := Ordered.mem_distinct.mp hkey
  obtain ⟨p, hp, rfl⟩ := List.mem_map.mp hkey'
  rw [List.foldl_map] at hentry
  obtain ⟨earlier, piece, later, hsplit, rfl, hlater⟩ := Ordered.exists_last_of_mem_foldl_put hentry
  have hpiece : piece ∈ ps := hsplit ▸ List.mem_append_right _ List.mem_cons_self
  -- the last value that was put under the name is the last of the key
  have hsame : keyOf piece = keyOf p :=
    keyOf_eq_of_fieldName_eq hfaithful hnamed hpiece hp (hzip hmem)
  refine ⟨?_, rfl, earlier, piece, later, hsplit, hsame, fun q hq heq => hlater q hq ?_,
    hasValueType_iff.mpr rfl⟩
  · rw [← hsame]
    exact find?_keyOf hnamed hpiece
  · rw [heq, hsame]

end Pieces

/-! ## Forms -/

/-- **How a text comes to be read as a form**, and in which mode. -/
inductive ReadIn (text : String) (mime : Option String) : Form.Mode → Prop
  /-- A text that is declared to be a form is read leniently. -/
  | declared : isFormMimeType mime = true → ReadIn text mime .lenient
  /-- A text that turns out not to be JSON is read strictly. -/
  | undeclared {e : Json.Error} : isFormMimeType mime = false → Json.parse text = .error e →
    ReadIn text mime .strict

/-- **A form that is refused** leaves the names of fields as they are. -/
theorem names_infer_of_refused {mode : Form.Mode} {text : String} (h : Refused mode text)
    {mime : Option String} (hmime : ReadIn text mime mode) (name : String) (names : FieldNames) :
    (infer name (.text text) mime names).names = names := by
  obtain ⟨e, he⟩ := exists_formInterface_eq_error h name names
  unfold infer
  cases hmime with
  | declared hform =>
    rw [if_pos hform, ofForm, he]
  | undeclared hform hparse =>
    rw [if_neg (Bool.eq_false_iff.mp hform)]
    simp only [ofText, hparse, he]
    rfl

/-- **What the interface of a form is.** -/
structure FormAnswer (mode : Form.Mode) (name text : String) (names : FieldNames) (i : Interface)
    (after : FieldNames) : Prop where
  /-- It has the name. -/
  name : i.name = name
  /-- The keys of the pieces are named, in order. -/
  names : after = names.nameFields (keysOfPieces (pieces mode text))
  /-- It has a field for each key, in order of first occurrence. -/
  fields : List.Forall₂ (StandsFor after (pieces mode text)) i.fields
    (Ordered.distinct ((pieces mode text).map keyOf))
  /-- No two fields have one name. -/
  nodup : (i.fields.map Field.name).Nodup

/-- **The interface of a form** in a table of names after any steps: a form
that is refused has none and leaves the names as they are; every other form
has one. -/
theorem formInterface_after (mode : Form.Mode) (name text : String)
    (steps : List FieldNames.Step) :
    (Refused mode text →
        (∃ e, formInterface mode name text (FieldNames.after .empty steps) = .error e)
        ∧ ∀ mime, ReadIn text mime mode →
            (infer name (.text text) mime (FieldNames.after .empty steps)).names
              = FieldNames.after .empty steps)
      ∧ (¬ Refused mode text →
        ∃ i after, formInterface mode name text (FieldNames.after .empty steps) = .ok (i, after)
          ∧ FormAnswer mode name text (FieldNames.after .empty steps) i after) := by
  set names := FieldNames.after .empty steps with hnames
  have hfaithful : names.Faithful := (FieldNames.names_after steps).toFaithful
  refine ⟨fun h => ⟨exists_formInterface_eq_error h name names,
    fun mime hmime => names_infer_of_refused h hmime name names⟩, fun h => ?_⟩
  set keys := keysOfPieces (pieces mode text) with hkeys
  have hafter : (names.nameFields keys).Faithful := FieldNames.faithful_nameFields hfaithful keys
  have hnamed : ∀ p ∈ pieces mode text,
      ∃ name, (names.nameFields keys).find? (codePoints (keyOf p)) = some name := fun p hp =>
    FieldNames.exists_find?_nameFields names (List.mem_map_of_mem hp)
  have hfields := forall₂_fieldsOfPieces hafter hnamed
  exact ⟨_, _, formInterface_eq h name names, rfl, rfl, hfields,
    nodup_fieldsOfPieces _ _⟩

/-- Two keys of four are one key when decoded, and another asks for the same
name. -/
example :
    (infer "F" (.text "a%62=1&_ab=TRUE&a+b=-7&ab=x") none Table.empty).definition.text
      = "interface F \x7b\n  ab: string;\n  ab_1: boolean;\n  a_b: number;\n\x7d" := by
  decide +kernel

end Sample

end TypedTraffic
