import Mathlib.Data.List.Zip
import TypedTraffic.Proofs.Declaration.Relabelled

/-!
# The canonical text of a renamed definition

The canonical text forgets which names a definition declares, but it
forgets them wherever they stand, the names of fields included. So a
renaming of types does not show in it as long as fields are not called
like the types that are renamed, and only then: definitions of one shape
have one canonical text exactly when no name that differs between them is
the name of a field (`canonical_eq_iff`).
-/

namespace TypedTraffic

open Naming Text Canonical

namespace Definition

/-- **Being of one shape is symmetric** among definitions that are closed. -/
theorem SameShape.symm {d d' : Definition} (h : d.SameShape d') (hclosed : d.Closed) :
    d'.SameShape d := by
  obtain ⟨ρ, hinj, rfl⟩ := h
  obtain ⟨σ, hσ⟩ : ∃ σ : String → String, ∀ n ∈ d.names, σ (ρ n) = n :=
    ⟨Function.invFunOn ρ {n | n ∈ d.names}, fun n hn => hinj.leftInvOn_invFunOn hn⟩
  refine ⟨σ, fun m hm n hn hmn => ?_, ?_⟩
  · rw [Set.mem_ofPred_eq, names_rename] at hm hn
    obtain ⟨a, ha, rfl⟩ := List.mem_map.mp hm
    obtain ⟨b, hb, rfl⟩ := List.mem_map.mp hn
    rw [hσ a ha, hσ b hb] at hmn
    rw [hmn]
  · have hid : d.rename (σ ∘ ρ) = d.rename id := by
      refine rename_congr hσ fun n hn => hσ n ?_
      rw [names_eq_cons]
      exact List.mem_cons_of_mem _ (hclosed n hn)
    rw [rename_rename, hid, rename_id]

end Definition

/-! ## The erased hand -/

/-- A declared name has the place of its new name. -/
theorem slot_map {ρ : String → String} {ns : List String} (h : (ns.map ρ).Nodup) {n : String}
    (hn : n ∈ ns) : slot (ns.map ρ) (ρ n) = slot ns n := by
  have hlt : ns.idxOf n < (ns.map ρ).length := by
    rw [List.length_map]
    exact List.idxOf_lt_length_of_mem hn
  have hget : (ns.map ρ)[ns.idxOf n] = ρ n := by rw [List.getElem_map, List.getElem_idxOf]
  have hidx : (ns.map ρ).idxOf (ρ n) = ns.idxOf n := by rw [← hget, h.idxOf_getElem]
  rw [slot, slot, if_pos (List.mem_map_of_mem hn), if_pos hn, hidx]

section Erased

variable {ρ : String → String} {ns ns' : List String}

theorem TypeExpr.written_erased_rename {t : TypeExpr}
    (href : ∀ n, t.reference? = some n → slot ns' (ρ n) = slot ns n) :
    (t.rename ρ).written (.erased ns') = t.written (.erased ns) := by
  induction t with
  | array element ih => exact congrArg (· ++ _) (ih href)
  | named n => exact href n rfl
  | _ => rfl

theorem Field.written_erased_rename {f : Field} (hname : slot ns' f.name = slot ns f.name)
    (href : ∀ n, f.type.reference? = some n → slot ns' (ρ n) = slot ns n) :
    (f.rename ρ).written (.erased ns') = f.written (.erased ns) := by
  have htype := TypeExpr.written_erased_rename href
  rw [Field.written, Field.written]
  simp only [Field.rename, htype]
  exact congrArg (fun ts => ts ++ _ ++ _ ++ _) hname

theorem Interface.written_erased_rename {i : Interface}
    (hnames : ∀ f ∈ i.fields, slot ns' f.name = slot ns f.name)
    (href : ∀ f ∈ i.fields, ∀ n, f.type.reference? = some n → slot ns' (ρ n) = slot ns n) :
    (i.rename ρ).written (.erased ns') = i.written (.erased ns) := by
  have hfields : (Hand.erased ns').fields (i.fields.map (Field.rename ρ))
      = (Hand.erased ns).fields i.fields := by
    rw [Hand.fields, Hand.fields, List.flatMap_map]
    refine List.flatMap_congr fun f hf => ?_
    rw [Field.written_erased_rename (hnames f hf) (href f hf)]
    rfl
  rw [Interface.written, Interface.written]
  simp only [Interface.rename, hfields]
  rfl

/-- **What the erased hand writes of a renamed definition**, if names of
fields and references have the same places as before. -/
theorem Definition.written_erased_rename {d : Definition}
    (hnames : ∀ f ∈ d.fieldNames, slot ns' f = slot ns f)
    (href : ∀ n ∈ d.references, slot ns' (ρ n) = slot ns n) :
    (d.rename ρ).written (.erased ns') = d.written (.erased ns) := by
  have hinterface : ∀ i ∈ d.all, (i.rename ρ).written (.erased ns') = i.written (.erased ns) := by
    intro i hi
    have hfields : ∀ f ∈ i.fields, f ∈ d.fields := fun f hf => List.mem_flatMap.mpr ⟨i, hi, hf⟩
    exact Interface.written_erased_rename
      (fun f hf => hnames _ (List.mem_map_of_mem (hfields f hf)))
      fun f hf n hn => href n (mem_references.mpr ⟨f, hfields f hf, hn⟩)
  cases d with
  | interfaces root auxiliary =>
    have hauxiliary : (Hand.erased ns').interfaces (auxiliary.map (Interface.rename ρ))
        = (Hand.erased ns).interfaces auxiliary := by
      rw [Hand.interfaces, Hand.interfaces, List.flatMap_map]
      refine List.flatMap_congr fun i hi => ?_
      rw [hinterface i (List.mem_cons_of_mem _ hi)]
      rfl
    rw [Definition.rename, Definition.written, Definition.written, hauxiliary,
      hinterface root List.mem_cons_self]
  | «alias» name target => rfl

end Erased

/-! ## The canonical text -/

/-- **Definitions of one shape have one canonical text** exactly when no
declared name that differs is the name of a field. -/
theorem Definition.canonical_eq_iff {lead : List Token} (hl : IsBlankLead lead) {d d' : Definition}
    (hd : d.Legible) (hd' : d'.Legible) (hclosed : d.Closed) (hshape : d.SameShape d') :
    canonical (d.rename (led lead)).text = canonical (d'.rename (led lead)).text
      ↔ ∀ p ∈ d.names.zip d'.names, p.1 ∈ d.fieldNames ∨ p.2 ∈ d.fieldNames → p.1 = p.2 := by
  have hsame : d'.fieldNames = d.fieldNames := by
    obtain ⟨ρ, -, rfl⟩ := hshape
    exact fieldNames_rename ρ d
  constructor
  · rintro h ⟨n, n'⟩ hp (hn | hn)
    · exact (sameShape_iff_of_canonical_eq hl hd hd' h).mp hshape _ hp hn
    · have hback := (sameShape_iff_of_canonical_eq hl hd' hd h.symm).mp (hshape.symm hclosed)
      have hp' : (n', n) ∈ d'.names.zip d.names := by
        rw [← List.zip_swap]
        exact List.mem_map_of_mem hp
      exact (hback _ hp' (hsame ▸ hn)).symm
  · intro h
    obtain ⟨ρ, -, rfl⟩ := hshape
    have hnodup : (d.names.map ρ).Nodup := names_rename ρ d ▸ hd'.nodup
    have hpair : ∀ n ∈ d.names, (n, ρ n) ∈ d.names.zip (d.rename ρ).names := by
      intro n hn
      rw [names_rename, ← List.map_prod_left_eq_zip]
      exact List.mem_map_of_mem hn
    rw [canonical_text hl hd.clear, canonical_text hl hd'.clear, names_rename]
    refine congrArg (fun ts => String.ofList (charsOf ts)) (written_erased_rename ?_ ?_).symm
    · -- a field that has a declared name has the same one in both definitions
      intro f hf
      by_cases hmem : f ∈ d.names
      · have hfix : f = ρ f := h _ (hpair f hmem) (Or.inl hf)
        have hslot := slot_map hnodup hmem
        rwa [← hfix] at hslot
      · have hmem' : f ∉ d.names.map ρ := by
          intro hmem'
          obtain ⟨n, hn, rfl⟩ := List.mem_map.mp hmem'
          have hfix : n = ρ n := h _ (hpair n hn) (Or.inr hf)
          rw [← hfix] at hmem
          exact hmem hn
        rw [slot, slot, if_neg hmem, if_neg hmem']
    · intro n hn
      refine slot_map hnodup ?_
      rw [names_eq_cons]
      exact List.mem_cons_of_mem _ (hclosed n hn)

end TypedTraffic
