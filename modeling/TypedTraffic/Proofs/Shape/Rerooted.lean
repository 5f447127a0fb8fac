import Mathlib.Data.List.Find
import TypedTraffic.Proofs.Shape.Conforming

/-!
# One shape under two roots

The names of auxiliary interfaces are made from the name of the root, and
what a name is made from comes back into the layout in two places: a name
that is declared gives way to the next one of its series, and records are
compared by a fingerprint of their fields, in which names stand.

The first is no matter, since names are taken or free alike under both
roots (`SideBySide.auxiliaryName_eq`). As for the second, fingerprints
have to tell apart what is compared; then records are shared alike
(`SideBySide.alike?_eq`). So the definitions of one shape under two roots
are renamed into each other (`definition_rename`).
-/

namespace TypedTraffic.Layout

open Naming

/-- **A renaming from one root to another**: what is behind the root
stays. -/
def Reroots (root root' : String) (ρ : String → String) : Prop :=
  ∀ tail : String, ρ (root ++ tail) = root' ++ tail

theorem exists_reroots (root root' : String) : ∃ ρ, Reroots root root' ρ := by
  have hinj : Function.Injective fun tail : String => root ++ tail := by
    intro s t h
    have hl := congrArg String.toList h
    simp only [String.toList_append] at hl
    exact String.toList_inj.mp (List.append_cancel_left hl)
  exact ⟨Function.extend (fun tail : String => root ++ tail) (fun tail => root' ++ tail) id,
    fun tail => hinj.extend_apply _ _ tail⟩

/-- A name that is made from a root. -/
def IsUnder (root n : String) : Prop := ∃ tail : String, n = root ++ tail

theorem isUnder_self (root : String) : IsUnder root root := ⟨"", String.append_empty.symm⟩

/-- Fields that refer to names made from a root only. -/
def FieldsUnder (root : String) (fields : List Field) : Prop :=
  ∀ f ∈ fields, ∀ n, f.type.reference? = some n → IsUnder root n

section Reroots

variable {root root' : String} {ρ : String → String} (hρ : Reroots root root' ρ)

include hρ

theorem Reroots.root_eq : ρ root = root' := by
  have h := hρ ""
  rwa [String.append_empty, String.append_empty] at h

/-- There is a way back. -/
theorem Reroots.exists_back : ∃ σ : String → String, ∀ n, IsUnder root n → σ (ρ n) = n := by
  obtain ⟨σ, hσ⟩ := exists_reroots root' root
  refine ⟨σ, ?_⟩
  rintro n ⟨tail, rfl⟩
  rw [hρ tail, hσ tail]

theorem Reroots.inj {m n : String} (hm : IsUnder root m) (hn : IsUnder root n) (h : ρ m = ρ n) :
    m = n := by
  obtain ⟨σ, hσ⟩ := hρ.exists_back
  rw [← hσ m hm, h, hσ n hn]

/-- Names are taken alike under both roots. -/
theorem Reroots.mem_map_iff {taken : List String} (htaken : ∀ m ∈ taken, IsUnder root m)
    {n : String} (hn : IsUnder root n) : ρ n ∈ taken.map ρ ↔ n ∈ taken := by
  refine ⟨fun h => ?_, List.mem_map_of_mem⟩
  obtain ⟨m, hm, heq⟩ := List.mem_map.mp h
  rw [← hρ.inj (htaken m hm) hn heq]
  exact hm

/-- Lists of fields are equal alike under both roots. -/
theorem Reroots.map_rename_inj {fs gs : List Field} (hfs : FieldsUnder root fs)
    (hgs : FieldsUnder root gs) : fs.map (Field.rename ρ) = gs.map (Field.rename ρ) ↔ fs = gs := by
  refine ⟨fun h => ?_, fun h => by rw [h]⟩
  obtain ⟨σ, hσ⟩ := hρ.exists_back
  have hback : ∀ {fs : List Field}, FieldsUnder root fs →
      (fs.map (Field.rename ρ)).map (Field.rename σ) = fs := by
    intro fs hfs
    rw [List.map_map, List.map_congr_left (g := id) fun f hf => ?_, List.map_id]
    have htype : f.type.rename (σ ∘ ρ) = f.type.rename id :=
      TypeExpr.rename_congr fun n hn => hσ n (hfs f hf n hn)
    simp only [Function.comp_apply, Field.rename, TypeExpr.rename_rename, htype,
      TypeExpr.rename_id, id_eq]
  rw [← hback hfs, h, hback hgs]

/-- The first free name of a series moves along with its root. -/
theorem Reroots.firstFree_eq {taken : List String} (htaken : ∀ m ∈ taken, IsUnder root m)
    (title : String) :
    firstFree "" (taken.map ρ) (root' ++ title) = ρ (firstFree "" taken (root ++ title)) := by
  have hnumbered : ∀ (root : String) (k : Nat), numbered "" (root ++ title) k
      = root ++ numbered "" title k := by
    intro root k
    cases k with
    | zero => rfl
    | succ k => simp only [numbered, String.append_assoc]
  have hindex : firstFreeIndex (taken.map ρ) (numbered "" (root' ++ title))
      = firstFreeIndex taken (numbered "" (root ++ title)) := by
    refine firstFreeIndex_congr (List.length_map _) fun k => ?_
    rw [hnumbered, hnumbered, ← hρ, hρ.mem_map_iff htaken ⟨_, rfl⟩]
  rw [firstFree, firstFree, hindex, hnumbered, hnumbered, hρ]

end Reroots

/-! ## The walk under two roots -/

/-- **The interfaces declared at some point of the walk**, as they are and
renamed. -/
structure Tracked (l : Layout) (ρ : String → String) (lists lists' : List (List Field))
    (declared : List Interface) : Prop where
  /-- The invariant of the walk. -/
  invariant : l.Invariant declared
  /-- The lists of their fields have been met. -/
  met : ∀ i ∈ declared, i.fields ∈ lists
  /-- The lists of their fields have been met when they are renamed. -/
  met' : ∀ i ∈ declared, i.fields.map (Field.rename ρ) ∈ lists'

theorem Invariant.isUnder {l : Layout} {declared : List Interface} (h : l.Invariant declared) :
    ∀ n ∈ declared.map Interface.name, IsUnder l.root n := by
  intro n hn
  obtain ⟨i, hi, rfl⟩ := List.mem_map.mp hn
  obtain ⟨tail, htail, -⟩ := h.stems i hi
  exact ⟨tail, htail⟩

theorem Invariant.fieldsUnder {l : Layout} {declared : List Interface} (h : l.Invariant declared)
    {fs : List Field} (hover : ∀ f ∈ fs, l.Over declared f) : FieldsUnder l.root fs :=
  fun f hf n hn => h.isUnder n ((hover f hf).reference n hn)

/-- **Two layouts side by side**: they name fields alike, and fingerprints
tell apart the lists that each of them meets. -/
structure SideBySide (l l' : Layout) (ρ : String → String) (lists lists' : List (List Field)) :
    Prop where
  /-- The renaming leads from one root to the other. -/
  reroots : Reroots l.root l'.root ρ
  /-- The names of fields are the same. -/
  fieldName : l'.fieldName = l.fieldName
  /-- Under the one root fingerprints tell lists apart. -/
  apart : ToldApart lists
  /-- Under the other root they do, too. -/
  apart' : ToldApart lists'

namespace SideBySide

variable {l l' : Layout} {ρ : String → String} {lists lists' : List (List Field)}
  (hs : l.SideBySide l' ρ lists lists') {declared : List Interface}

include hs

/-- **Auxiliary interfaces are named alike under both roots.** -/
theorem auxiliaryName_eq (hinv : l.Invariant declared) (key : SourceName) :
    l'.auxiliaryName key (declared.map (Interface.rename ρ))
      = ρ (l.auxiliaryName key declared) := by
  have htaken : ∀ n ∈ l.root :: declared.map Interface.name, IsUnder l.root n := by
    intro n hn
    rcases List.mem_cons.mp hn with rfl | hn
    · exact isUnder_self l.root
    · exact hinv.isUnder n hn
  have hmap : l'.root :: (declared.map (Interface.rename ρ)).map Interface.name
      = (l.root :: declared.map Interface.name).map ρ := by
    rw [List.map_cons, hs.reroots.root_eq, List.map_map, List.map_map]
    rfl
  rw [auxiliaryName, auxiliaryName, hmap, hs.reroots.firstFree_eq htaken]

/-- **Records are shared alike under both roots**, if fingerprints tell
apart what is compared. -/
theorem alike?_eq (h : l.Tracked ρ lists lists' declared) {fs : List Field}
    (hfs : fs ∈ lists) (hfs' : fs.map (Field.rename ρ) ∈ lists')
    (hover : ∀ f ∈ fs, l.Over declared f) :
    alike? (declared.map (Interface.rename ρ)) (fs.map (Field.rename ρ))
      = (alike? declared fs).map (Interface.rename ρ) := by
  unfold alike?
  rw [List.find?_map]
  refine congrArg (Option.map _) (List.find?_congr fun i hi => ?_)
  -- both comparisons say whether the fields are the same
  have htoken : fieldsToken i.fields = fieldsToken fs ↔ i.fields = fs :=
    ⟨hs.apart _ (h.met i hi) _ hfs, fun heq => by rw [heq]⟩
  have htoken' : fieldsToken (i.fields.map (Field.rename ρ)) = fieldsToken (fs.map (Field.rename ρ))
      ↔ i.fields.map (Field.rename ρ) = fs.map (Field.rename ρ) :=
    ⟨hs.apart' _ (h.met' i hi) _ hfs', fun heq => by rw [heq]⟩
  have hunder := h.invariant.fieldsUnder (h.invariant.fields i hi)
  rw [Function.comp_apply, Bool.eq_iff_iff, beq_iff_eq, beq_iff_eq, htoken,
    ← hs.reroots.map_rename_inj hunder (h.invariant.fieldsUnder hover), ← htoken']
  rfl

/-- **A record is laid out alike under both roots.** -/
theorem declare_eq (h : l.Tracked ρ lists lists' declared) {fs : List Field}
    (hfs : fs ∈ lists) (hfs' : fs.map (Field.rename ρ) ∈ lists')
    (hover : ∀ f ∈ fs, l.Over declared f) (key : SourceName) :
    l'.declare key (fs.map (Field.rename ρ)) (declared.map (Interface.rename ρ))
        = ((l.declare key fs declared).1.rename ρ,
            (l.declare key fs declared).2.map (Interface.rename ρ))
      ∧ l.Tracked ρ lists lists' (l.declare key fs declared).2 := by
  have hinv := (h.invariant.declare hover key).1
  unfold declare at hinv ⊢
  rw [hs.alike?_eq h hfs hfs' hover]
  cases hshared : alike? declared fs with
  | some i => exact ⟨rfl, h⟩
  | none =>
    -- a new interface has the counterpart of its name, and has been met just now
    rw [hshared] at hinv
    simp only [Option.map_none, hs.auxiliaryName_eq h.invariant]
    refine ⟨by rw [List.map_append]; rfl, hinv, fun i hi => ?_, fun i hi => ?_⟩
    · rcases List.mem_append.mp hi with hi | hi
      · exact h.met i hi
      · rw [List.mem_singleton.mp hi]
        exact hfs
    · rcases List.mem_append.mp hi with hi | hi
      · exact h.met' i hi
      · rw [List.mem_singleton.mp hi]
        exact hfs'

omit hs

mutual

/-- **A shape is laid out alike under both roots.** -/
theorem typeOf_eq (hs : l.SideBySide l' ρ lists lists') (key : SourceName) (shape : Shape)
    {declared : List Interface} (h : l.Tracked ρ lists lists' declared)
    (hmet : ∀ fs ∈ l.listsOf key shape declared, fs ∈ lists)
    (hmet' : ∀ fs ∈ l'.listsOf key shape (declared.map (Interface.rename ρ)), fs ∈ lists') :
    l'.typeOf key shape (declared.map (Interface.rename ρ))
        = ((l.typeOf key shape declared).1.rename ρ,
            (l.typeOf key shape declared).2.map (Interface.rename ρ))
      ∧ l.Tracked ρ lists lists' (l.typeOf key shape declared).2 := by
  cases shape with
  | array element =>
    obtain ⟨heq, htracked⟩ := hs.typeOf_eq key element h hmet hmet'
    refine ⟨?_, htracked⟩
    rw [typeOf, heq]
    rfl
  | record fields =>
    rw [listsOf] at hmet hmet'
    obtain ⟨heq, htracked⟩ := hs.fieldsOf_eq fields h
      (fun fs hfs => hmet fs (List.mem_append_left _ hfs))
      (fun fs hfs => hmet' fs (List.mem_append_left _ hfs))
    have hover := (h.invariant.fieldsOf fields).2
    have hfs' := hmet' _ (List.mem_append_right _ List.mem_cons_self)
    rw [heq] at hfs'
    rw [typeOf, heq]
    exact hs.declare_eq htracked
      (hmet _ (List.mem_append_right _ List.mem_cons_self)) hfs' hover key
  | _ => exact ⟨rfl, h⟩

/-- The fields of a record are laid out alike under both roots. -/
theorem fieldsOf_eq (hs : l.SideBySide l' ρ lists lists')
    (fields : List (SourceName × Bool × Shape)) {declared : List Interface}
    (h : l.Tracked ρ lists lists' declared)
    (hmet : ∀ fs ∈ l.listsOfFields fields declared, fs ∈ lists)
    (hmet' : ∀ fs ∈ l'.listsOfFields fields (declared.map (Interface.rename ρ)), fs ∈ lists') :
    l'.fieldsOf fields (declared.map (Interface.rename ρ))
        = ((l.fieldsOf fields declared).1.map (Field.rename ρ),
            (l.fieldsOf fields declared).2.map (Interface.rename ρ))
      ∧ l.Tracked ρ lists lists' (l.fieldsOf fields declared).2 := by
  cases fields with
  | nil => exact ⟨rfl, h⟩
  | cons field fields =>
    obtain ⟨key, optional, shape⟩ := field
    rw [listsOfFields] at hmet hmet'
    obtain ⟨htype, htracked⟩ := hs.typeOf_eq key shape h
      (fun fs hfs => hmet fs (List.mem_append_left _ hfs))
      (fun fs hfs => hmet' fs (List.mem_append_left _ hfs))
    rw [htype] at hmet'
    obtain ⟨hrest, htracked'⟩ := hs.fieldsOf_eq fields htracked
      (fun fs hfs => hmet fs (List.mem_append_right _ hfs))
      (fun fs hfs => hmet' fs (List.mem_append_right _ hfs))
    refine ⟨?_, htracked'⟩
    rw [fieldsOf, htype]
    simp only [hrest, hs.fieldName]
    rfl

end

end SideBySide

/-- **Definitions of one shape under two roots** are renamed into each
other, if the fingerprints tell apart the lists of fields met under either
root. -/
theorem definition_rename {l l' : Layout} {ρ : String → String} (hρ : Reroots l.root l'.root ρ)
    (hnames : l'.fieldName = l.fieldName) {fields : List (SourceName × Bool × Shape)}
    (hlists : ToldApart (l.listsOfFields fields []))
    (hlists' : ToldApart (l'.listsOfFields fields [])) :
    l'.definition fields = (l.definition fields).rename ρ := by
  have hstart : l.Tracked ρ (l.listsOfFields fields []) (l'.listsOfFields fields []) [] :=
    ⟨invariant_nil l, fun i hi => absurd hi List.not_mem_nil,
      fun i hi => absurd hi List.not_mem_nil⟩
  have hs : l.SideBySide l' ρ _ _ := ⟨hρ, hnames, hlists, hlists'⟩
  obtain ⟨heq, -⟩ := hs.fieldsOf_eq fields hstart (fun _ h => h) fun _ h => h
  rw [List.map_nil] at heq
  rw [definition, definition, heq]
  simp only [Definition.rename, Interface.rename, hρ.root_eq]

end TypedTraffic.Layout
