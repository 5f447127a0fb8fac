import TypedTraffic.Proofs.Declaration.Written

/-!
# Definitions under a root

All names that one source of types declares are made from the name of its
root: the root itself, and the root with name characters behind it. A
definition is **rooted** in a name when its names are of this form, kept
apart and closed under reference.

A definition that is rooted in a type name with something in front of it
is a legible and closed definition with the same in front of all its type
names (`Rooted.exists_legible`).
-/

namespace TypedTraffic

open Naming Text Canonical

/-- **A definition rooted in a name.** -/
structure Definition.Rooted (root : String) (d : Definition) : Prop where
  /-- The root comes first. -/
  name : d.name = root
  /-- No name is declared twice. -/
  nodup : d.names.Nodup
  /-- Names are the root with name characters behind it. -/
  stems : ∀ n ∈ d.names, ∃ tail : String, n = root ++ tail ∧ ∀ c ∈ tail.toList, isNameChar c = true
  /-- The names of fields are identifiers. -/
  fieldNames : ∀ f ∈ d.fieldNames, isIdentifier f = true
  /-- References are to auxiliary interfaces. -/
  closed : d.Closed

theorem Definition.rooted_alias (name : String) (target : AliasTarget) :
    (Definition.alias name target).Rooted name where
  name := rfl
  nodup := List.nodup_singleton name
  stems n hn := ⟨"", by rw [List.mem_singleton.mp hn, String.append_empty], by simp⟩
  fieldNames f hf := absurd hf List.not_mem_nil
  closed n hn := absurd hn List.not_mem_nil

/-- An interface that refers to nothing is rooted in its name. -/
theorem Definition.rooted_of_reference?_eq_none (name : String) {fields : List Field}
    (hname : ∀ f ∈ fields, isIdentifier f.name = true)
    (href : ∀ f ∈ fields, f.type.reference? = none) :
    (Definition.interfaces ⟨name, fields⟩ []).Rooted name where
  name := rfl
  nodup := List.nodup_singleton name
  stems n hn := ⟨"", by rw [List.mem_singleton.mp hn, String.append_empty], by simp⟩
  fieldNames f hf := by
    obtain ⟨g, hg, rfl⟩ := List.mem_map.mp hf
    obtain ⟨j, hj, hg⟩ := List.mem_flatMap.mp hg
    rw [List.mem_singleton.mp hj] at hg
    exact hname g hg
  closed n hn := by
    obtain ⟨g, hg, hn⟩ := mem_references.mp hn
    obtain ⟨j, hj, hg⟩ := List.mem_flatMap.mp hg
    rw [List.mem_singleton.mp hj] at hg
    rw [href g hg] at hn
    cases hn

theorem isFreeName_of_isTypeName {n : String} (h : IsTypeName n) : IsFreeName n :=
  ⟨h.identifier, h.not_mem_reservedWords⟩

theorem led_injective (lead : List Token) : Function.Injective (led lead) := by
  intro m n h
  have hl := congrArg String.toList h
  rw [toList_led, toList_led] at hl
  exact String.toList_inj.mp (List.append_cancel_left hl)

theorem led_append (lead : List Token) (m n : String) : led lead m ++ n = led lead (m ++ n) :=
  String.append_assoc

/-- **A definition rooted in a type name** is legible and closed, apart
from what is in front of its type names. -/
theorem Definition.Rooted.exists_legible {lead : List Token} {core : String} {d : Definition}
    (h : d.Rooted (led lead core)) (hcore : IsTypeName core) :
    ∃ c : Definition, c.Legible ∧ c.Closed ∧ c.name = core ∧ c.rename (led lead) = d := by
  obtain ⟨back, hback⟩ := (led_injective lead).hasLeftInverse
  have hstem : ∀ n ∈ d.names, ∃ m, IsTypeName m ∧ n = led lead m := by
    intro n hn
    obtain ⟨tail, rfl, htail⟩ := h.stems n hn
    exact ⟨core ++ tail, hcore.append htail, led_append lead core tail⟩
  -- all names of the definition have the lead, so it can be taken away and put back
  have hnames : ∀ n ∈ d.names, led lead (back n) = n := by
    intro n hn
    obtain ⟨m, -, rfl⟩ := hstem n hn
    rw [hback m]
  have hfree : ∀ n ∈ d.names, IsFreeName (back n) := by
    intro n hn
    obtain ⟨m, hm, rfl⟩ := hstem n hn
    rw [hback m]
    exact isFreeName_of_isTypeName hm
  have href : ∀ n ∈ d.references, n ∈ d.names := by
    intro n hn
    rw [Definition.names_eq_cons]
    exact List.mem_cons_of_mem _ (h.closed n hn)
  refine ⟨d.rename back, ⟨?_, ?_, ?_, ?_⟩, ?_, ?_, ?_⟩
  · intro n hn
    rw [Definition.names_rename] at hn
    obtain ⟨m, hm, rfl⟩ := List.mem_map.mp hn
    exact hfree m hm
  · rw [Definition.names_rename]
    refine h.nodup.map_on fun m hm n hn hmn => ?_
    rw [← hnames m hm, hmn, hnames n hn]
  · intro f hf
    rw [Definition.fieldNames_rename] at hf
    exact h.fieldNames f hf
  · intro n hn
    rw [Definition.references_rename] at hn
    obtain ⟨m, hm, rfl⟩ := List.mem_map.mp hn
    exact hfree m (href m hm)
  · intro n hn
    rw [Definition.references_rename] at hn
    obtain ⟨m, hm, rfl⟩ := List.mem_map.mp hn
    rw [Definition.auxiliaryNames_rename]
    exact List.mem_map_of_mem (h.closed m hm)
  · rw [Definition.name_rename, h.name, hback]
  · have hid : d.rename (led lead ∘ back) = d.rename id :=
      Definition.rename_congr hnames fun n hn => hnames n (href n hn)
    rw [Definition.rename_rename, hid, Definition.rename_id]

end TypedTraffic
