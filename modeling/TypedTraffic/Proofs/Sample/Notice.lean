import TypedTraffic.Proofs.Form.Pieces
import TypedTraffic.Proofs.Naming.Identifier
import TypedTraffic.Sample

/-!
# What the notice of a sample says

The notice of a sample names the definition and says what is wrong with the
sample (`Sample.isAbout_infer`). Nothing of the sample itself is in it, since
lenient reading of a form does not complain of a field. So the text of the
notice is ASCII if the name is (`Notice.IsAbout.isAscii_message`).
-/

namespace TypedTraffic

/-! ## ASCII -/

namespace Text

open Naming

/-- **A text in ASCII.** -/
def IsAscii (s : String) : Prop := ∀ c ∈ s.toList, c.toNat < 128

theorem isAscii_ofList {cs : List Char} (h : cs.all (·.toNat < 128) = true) :
    IsAscii (String.ofList cs) := by
  intro c hc
  rw [String.toList_ofList] at hc
  exact of_decide_eq_true (List.all_eq_true.mp h c hc)

theorem IsAscii.append {s t : String} (hs : IsAscii s) (ht : IsAscii t) : IsAscii (s ++ t) := by
  intro c hc
  rw [String.toList_append, List.mem_append] at hc
  exact hc.elim (hs c) (ht c)

/-- Name characters are ASCII. -/
theorem isAscii_of_isNameChar {s : String} (h : ∀ c ∈ s.toList, isNameChar c = true) :
    IsAscii s := fun c hc => toNat_lt_of_isNameChar (h c hc)

/-- Digits are ASCII. -/
theorem isAscii_of_isDigit {s : String} (h : ∀ c ∈ s.toList, c.isDigit = true) : IsAscii s :=
  isAscii_of_isNameChar fun c hc => by simp [isNameChar, isAlphanumeric, h c hc]

theorem isAscii_toString (n : Nat) : IsAscii (toString n) := by
  refine isAscii_of_isDigit fun c hc => ?_
  rw [toList_toString] at hc
  exact Nat.isDigit_of_mem_toDigits (by decide) (by decide) hc

end Text

open Naming Text

theorem Json.FaultKind.isAscii_text (kind : Json.FaultKind) : IsAscii kind.text := by
  cases kind <;> exact isAscii_ofList rfl

theorem Json.Error.isAscii_message (e : Json.Error) : IsAscii e.message := by
  cases e with
  | malformed kind line column offset =>
    have hline : IsAscii (kind.text ++ ": line " ++ toString line) :=
      (kind.isAscii_text.append (isAscii_ofList rfl)).append (isAscii_toString line)
    have hcolumn := (hline.append (t := " column ") (isAscii_ofList rfl)).append
      (isAscii_toString column)
    exact ((hcolumn.append (t := " (char ") (isAscii_ofList rfl)).append
      (isAscii_toString offset)).append (isAscii_ofList rfl)
  | tooManyDigits count =>
    have hlimit : IsAscii ("Exceeds the limit (" ++ toString digitLimit) :=
      (isAscii_ofList rfl).append (isAscii_toString digitLimit)
    exact ((hlimit.append (isAscii_ofList rfl)).append (isAscii_toString count)).append
      (isAscii_ofList rfl)
  | tooDeep container => cases container <;> exact isAscii_ofList rfl

/-! ## Notices of samples -/

/-- **The notice of a sample** that leads to the definition of a name. -/
inductive Notice.IsAbout (name : String) : Notice → Prop where
  /-- A form has to be text. -/
  | formNotText : IsAbout name (.formNotText name)
  /-- A form has no fields. -/
  | noFields : IsAbout name (.malformedForm name .noFields)
  /-- A text is neither JSON nor a form. -/
  | neitherFormat (e : Json.Error) : IsAbout name (.neitherFormat name e)
  /-- The root is no object. -/
  | rootNotObject : IsAbout name (.rootNotObject name)
  /-- The sample is nested too deeply. -/
  | nestedTooDeeply : IsAbout name (.nestedTooDeeply name)

/-- **The text of the notice is ASCII**, if the name is. -/
theorem Notice.IsAbout.isAscii_message {name : String} {n : Notice} (h : n.IsAbout name)
    (hname : IsAscii name) : IsAscii n.message := by
  have hfailed : IsAscii ("Failed to generate type for " ++ name) :=
    (isAscii_ofList rfl).append hname
  cases h with
  | formNotText => exact ((isAscii_ofList rfl).append hname).append (isAscii_ofList rfl)
  | noFields =>
    exact (((isAscii_ofList rfl).append hname).append (isAscii_ofList rfl)).append
      (isAscii_ofList rfl)
  | neitherFormat e =>
    exact ((hfailed.append (isAscii_ofList rfl)).append e.isAscii_message).append
      (isAscii_ofList rfl)
  | rootNotObject => exact hfailed.append (isAscii_ofList rfl)
  | nestedTooDeeply => exact hfailed.append (isAscii_ofList rfl)

namespace Sample

/-- Lenient reading of a form complains of nothing but its having no
fields. -/
theorem eq_noFields_of_lenient {name source : String} {names : FieldNames} {e : Form.Error}
    (h : formInterface .lenient name source names = .error e) : e = .noFields := by
  unfold formInterface at h
  split at h
  · rename_i hpairs
    unfold Form.pairs at hpairs
    split at hpairs
    · cases hpairs
    · rw [Form.pairsOf_lenient] at hpairs
      cases hpairs
  · cases h
    rfl
  · cases h

variable (name : String) (names : FieldNames)

theorem isAbout_ofForm (payload : Payload) :
    ∀ n ∈ (ofForm name payload names).notice, n.IsAbout name := by
  unfold ofForm
  split
  · rintro n ⟨⟩
    exact .formNotText
  · split
    · rintro n ⟨⟩
    · rename_i hform
      obtain rfl := eq_noFields_of_lenient hform
      rintro n ⟨⟩
      exact .noFields

theorem isAbout_ofJson (json : Json) :
    ∀ n ∈ (ofJson name json names).notice, n.IsAbout name := by
  unfold ofJson
  split
  · unfold ofObject
    split
    · rintro n ⟨⟩
      exact .nestedTooDeeply
    · rintro n ⟨⟩
  · rintro n ⟨⟩
    exact .rootNotObject

theorem isAbout_ofText (source : String) :
    ∀ n ∈ (ofText name source names).notice, n.IsAbout name := by
  unfold ofText
  split
  · exact isAbout_ofJson name names _
  · split
    · rintro n ⟨⟩
    · rintro n ⟨⟩
      exact .neitherFormat _

/-- **The notice of a sample names the definition** and says what is wrong
with the sample. -/
theorem isAbout_infer (payload : Payload) (mime : Option String) :
    ∀ n ∈ (infer name payload mime names).notice, n.IsAbout name := by
  unfold infer
  split
  · exact isAbout_ofForm name names payload
  · split
    · exact isAbout_ofText name names _
    · exact isAbout_ofJson name names _

end Sample

end TypedTraffic
