import TypedTraffic.Proofs.Declaration.Exported
import TypedTraffic.Proofs.Form.Pieces
import TypedTraffic.Proofs.Session.Completed
import TypedTraffic.Proofs.Shape.Depth

/-!
# What a sample leads to

Every sample leads to a definition that declares its name first, and to one
notice if the definition is an alias and to none otherwise
(`infer_declares_first`).

A text that is not declared to be a form leads to the interfaces of a JSON
object exactly if it is one that the walk gets through, to the interface of
a form exactly if it is not JSON and has an equals sign in every piece, and
to the alias of which nothing is known in all other cases (`TextOutcome`).
Two limits on nesting have a part in this. A text that is nested too deeply
for the reader is not JSON, and may be a form; one that only the walk
refuses is JSON, and leads to the alias.
-/

namespace TypedTraffic.Sample

open Naming Text Canonical

/-- **A text that holds an object** the walk gets through. -/
def HoldsObject (text : String) (members : Object) : Prop :=
  Json.parse text = .ok (.object members) ∧ Shape.WithinBudget members

/-- **A text that holds a form**: it is not JSON, and every piece between
ampersands has an equals sign. -/
def HoldsForm (text : String) : Prop :=
  (∃ e, Json.parse text = .error e) ∧ ∀ piece ∈ split '&' text.toList, '=' ∈ piece

/-- **What a text leads to** that is not declared to be a form. -/
structure TextOutcome (name text : String) (names : FieldNames) (i : Inference) : Prop where
  /-- The interfaces of an object, if the text holds one. -/
  object : (∃ members, HoldsObject text members) ↔
    ∃ members fields, Json.parse text = .ok (.object members)
      ∧ Shape.fieldsOfSample members = .ok fields
      ∧ i = ⟨(Layout.mk name (names.nameFields (Shape.keysOfFields fields)).fieldName).definition
          fields, none, names.nameFields (Shape.keysOfFields fields)⟩
  /-- The interface of a form, if the text holds one. -/
  form : HoldsForm text ↔
    ∃ e root after, Json.parse text = .error e
      ∧ formInterface .strict name text names = .ok (root, after)
      ∧ i = ⟨.interfaces root [], none, after⟩
  /-- An alias in all other cases. -/
  unknown : i.definition = .alias name .any ↔
    (¬ ∃ members, HoldsObject text members) ∧ ¬ HoldsForm text

section Text

variable {name text : String} {names : FieldNames} {i : Inference}

theorem exists_holdsObject_iff : (∃ members, HoldsObject text members) ↔
    ∃ members fields, Json.parse text = .ok (.object members)
      ∧ Shape.fieldsOfSample members = .ok fields := by
  refine exists_congr fun members => ?_
  rw [HoldsObject, ← Shape.exists_fieldsOfSample_iff, exists_and_left]

theorem holdsForm_iff :
    HoldsForm text ↔ (∃ e, Json.parse text = .error e) ∧ ¬ Form.Refused .strict text := by
  refine and_congr_right fun _ => ?_
  simp [Form.Refused]

/-- A text that is JSON holds no form. -/
theorem not_holdsForm {json : Json} (h : Json.parse text = .ok json) : ¬ HoldsForm text := by
  rintro ⟨⟨e, he⟩, -⟩
  cases h.symm.trans he

/-- A text that holds an object leads to its interfaces. -/
theorem textOutcome_object {members : Object} {fields : List (SourceName × Bool × Shape)}
    (hparse : Json.parse text = .ok (.object members))
    (hfields : Shape.fieldsOfSample members = .ok fields)
    (hi : i = ⟨(Layout.mk name (names.nameFields (Shape.keysOfFields fields)).fieldName).definition
      fields, none, names.nameFields (Shape.keysOfFields fields)⟩) :
    TextOutcome name text names i where
  object := iff_of_true (exists_holdsObject_iff.mpr ⟨members, fields, hparse, hfields⟩)
    ⟨members, fields, hparse, hfields, hi⟩
  form := iff_of_false (not_holdsForm hparse) fun ⟨_, _, _, he, _⟩ => nomatch hparse.symm.trans he
  unknown := by
    refine iff_of_false (fun halias => ?_) fun h =>
      h.1 (exists_holdsObject_iff.mpr ⟨members, fields, hparse, hfields⟩)
    rw [hi] at halias
    cases halias

/-- A text that holds a form leads to its interface. -/
theorem textOutcome_form {e : Json.Error} (hparse : Json.parse text = .error e)
    (hform : ¬ Form.Refused .strict text) {root : Interface} {after : FieldNames}
    (hroot : formInterface .strict name text names = .ok (root, after))
    (hi : i = ⟨.interfaces root [], none, after⟩) : TextOutcome name text names i where
  object := iff_of_false (fun ⟨_, hobject⟩ => nomatch hparse.symm.trans hobject.1)
    fun ⟨_, _, hobject, _⟩ => nomatch hparse.symm.trans hobject
  form := iff_of_true (holdsForm_iff.mpr ⟨⟨e, hparse⟩, hform⟩) ⟨e, root, after, hparse, hroot, hi⟩
  unknown := by
    refine iff_of_false (fun halias => ?_) fun h => h.2 (holdsForm_iff.mpr ⟨⟨e, hparse⟩, hform⟩)
    rw [hi] at halias
    cases halias

/-- A text that holds neither leads to the alias. -/
theorem textOutcome_unknown
    (hobject : ∀ members fields, Json.parse text = .ok (.object members) →
      Shape.fieldsOfSample members ≠ .ok fields)
    (hform : ∀ e, Json.parse text = .error e → Form.Refused .strict text)
    (hi : i.definition = .alias name .any) : TextOutcome name text names i := by
  have hnoObject : ¬ ∃ members, HoldsObject text members := fun h => by
    obtain ⟨members, fields, hparse, hfields⟩ := exists_holdsObject_iff.mp h
    exact hobject members fields hparse hfields
  have hnoForm : ¬ HoldsForm text := fun h => by
    obtain ⟨⟨e, he⟩, hpieces⟩ := holdsForm_iff.mp h
    exact hpieces (hform e he)
  refine ⟨iff_of_false hnoObject ?_, iff_of_false hnoForm ?_, iff_of_true hi ⟨hnoObject, hnoForm⟩⟩
  · rintro ⟨members, fields, hparse, hfields, -⟩
    exact hobject members fields hparse hfields
  · rintro ⟨e, root, after, he, hroot, -⟩
    obtain ⟨e', he'⟩ := exists_formInterface_eq_error (hform e he) name names
    cases hroot.symm.trans he'

/-- A text that is JSON leads to the interfaces of its object, or to the
alias. -/
theorem textOutcome_ofJson {json : Json} (hparse : Json.parse text = .ok json) :
    TextOutcome name text names (ofJson name json names) := by
  have hform : ∀ e, Json.parse text = .error e → Form.Refused .strict text := fun e he =>
    nomatch hparse.symm.trans he
  cases json with
  | object members =>
    have hmembers : ∀ other, Json.parse text = .ok (.object other) → other = members := by
      intro other hother
      cases hparse.symm.trans hother
      rfl
    rw [ofJson, ofObject]
    cases hfields : Shape.fieldsOfSample members with
    | ok fields => exact textOutcome_object hparse hfields rfl
    | error e =>
      refine textOutcome_unknown (fun other fields hother hok => ?_) hform rfl
      rw [hmembers other hother, hfields] at hok
      cases hok
  | _ => exact textOutcome_unknown (fun _ _ hobject => nomatch hparse.symm.trans hobject) hform rfl

/-- **What a text leads to** that is not declared to be a form. -/
theorem textOutcome_ofText (name text : String) (names : FieldNames) :
    TextOutcome name text names (ofText name text names) := by
  unfold ofText
  cases hparse : Json.parse text with
  | ok json => exact textOutcome_ofJson hparse
  | error e =>
    by_cases hform : Form.Refused .strict text
    · obtain ⟨e', he'⟩ := exists_formInterface_eq_error hform name names
      simp only [he']
      exact textOutcome_unknown (fun _ _ hobject => nomatch hparse.symm.trans hobject)
        (fun _ _ => hform) rfl
    · have hroot := formInterface_eq hform name names
      simp only [hroot]
      exact textOutcome_form hparse hform hroot rfl

end Text

/-- **What a sample leads to**: a definition that declares its name first,
with one notice exactly if it is an alias; and for a text that is not
declared to be a form, what it holds decides. -/
theorem infer_declares_first {name : String} (hname : isIdentifier name = true) (payload : Payload)
    (mime : Option String) (names : FieldNames) :
    (declaredNames (infer name payload mime names).definition.text).head? = some name
      ∧ (infer name payload mime names).notice.toList.length
          = (if (infer name payload mime names).definition.isAlias then 1 else 0)
      ∧ ∀ text, payload = .text text → isFormMimeType mime = false →
          TextOutcome name text names (infer name payload mime names) := by
  have hanswered := answered_infer name names payload mime
  refine ⟨?_, ?_, fun text htext hmime => ?_⟩
  · have hhead := Definition.head?_declaredNames (d := (infer name payload mime names).definition)
      (by rwa [hanswered.name])
    rwa [hanswered.name] at hhead
  · rw [← hanswered.notice]
    cases (infer name payload mime names).notice <;> rfl
  · rw [htext, infer, if_neg (Bool.eq_false_iff.mp hmime)]
    exact textOutcome_ofText name text names

/-- A text that is taken for JSON and holds a form, with a keyword for a
name. -/
theorem infer_declares_first_form :
    isIdentifier "type" = true
      ∧ (declaredNames (infer "type" (.text "a=1&type=%7B") (some "application/json")
          Table.empty).definition.text).head? = some "type"
      ∧ (infer "type" (.text "a=1&type=%7B") (some "application/json") Table.empty).notice = none
      ∧ ∃ e root after, Json.parse "a=1&type=%7B" = .error e
        ∧ formInterface .strict "type" "a=1&type=%7B" Table.empty = .ok (root, after)
        ∧ infer "type" (.text "a=1&type=%7B") (some "application/json") Table.empty
          = ⟨.interfaces root [], none, after⟩ := by
  have hname : isIdentifier "type" = true := by decide
  obtain ⟨hfirst, -, houtcome⟩ := infer_declares_first hname (.text "a=1&type=%7B")
    (some "application/json") Table.empty
  have hparse : ∃ e, Json.parse "a=1&type=%7B" = .error e := by
    have hfails : (Json.parse "a=1&type=%7B").isOk = false := by decide +kernel
    cases h : Json.parse "a=1&type=%7B" with
    | error e => exact ⟨e, rfl⟩
    | ok json =>
      rw [h] at hfails
      cases hfails
  have hholds : HoldsForm "a=1&type=%7B" := ⟨hparse, by decide +kernel⟩
  obtain ⟨e, root, after, he, hroot, hi⟩ := (houtcome _ rfl (by decide +kernel)).form.mp hholds
  exact ⟨hname, hfirst, by rw [hi], e, root, after, he, hroot, hi⟩

end TypedTraffic.Sample
