import TypedTraffic.Fingerprint
import TypedTraffic.Proofs.Declaration.Renamed

/-!
# The canonical text without names

The canonical text replaces the declared names of a definition one after
the other, wherever they stand as words, and then erases what follows the
keywords. When no field is called like a declared type, all of this
comes down to one step (`Separate.canonical_text`): a reference to the
`i`-th type becomes `#i`, the names behind the keywords go, and everything
else stays, the names of fields included, even those that are called
`type` or `interface`.

So no declared name is left, and a renaming of the types that keeps them
apart changes neither the canonical text nor the fingerprint
(`canonical_rename`). It does not matter that one name may be the
beginning of another, or that a renaming may exchange names.
-/

namespace TypedTraffic

open Naming Text Canonical

/-! ## What is left of a definition without its names -/

/-- A declared name as it is left in a reference: by its place. -/
def placeMark (ns : List String) (n : String) : String := "#" ++ toString (ns.idxOf n)

/-- A field with the types it refers to by their places. -/
def Field.nameless (ns : List String) (f : Field) : String :=
  f.name ++ (if f.optional then "?" else "") ++ ": " ++ (f.type.rename (placeMark ns)).text ++ ";"

/-- An interface without its name, on one line. -/
def Interface.nameless (ns : List String) (i : Interface) : String :=
  " ".intercalate ("interface \x7b" :: i.fields.map (Field.nameless ns) ++ ["\x7d"])

/-- **The interfaces of a definition without their names.** -/
def Definition.nameless (d : Definition) : String :=
  " ".intercalate (d.all.map (Interface.nameless d.names))

/-! ## Definitions whose types can be told from their fields -/

/-- **A separate definition**: interfaces under names that can be told
from each other, from the words around them and from the names of fields,
and that refer to each other only. -/
structure Definition.Separate (d : Definition) : Prop where
  /-- There is no alias. -/
  interfaces : d.isAlias = false
  /-- Declared names are words, and none of the words of interfaces. -/
  names : ∀ n ∈ d.names, IsClearName n
  /-- No name is declared twice. -/
  nodup : d.names.Nodup
  /-- The names of fields are words. -/
  fieldNames : ∀ f ∈ d.fieldNames, IsWordName f
  /-- No field is called like a type. -/
  fields : ∀ f ∈ d.fieldNames, f ∉ d.names
  /-- References are to declared types. -/
  references : ∀ n ∈ d.references, n ∈ d.names

namespace Definition.Separate

variable {d : Definition} (hd : d.Separate)

include hd

theorem clear : d.Clear where
  names := hd.names
  nodup := hd.nodup
  fieldNames := hd.fieldNames
  references n hn := hd.names n (hd.references n hn)
  target h := absurd h (by rw [hd.interfaces]; decide)

end Definition.Separate

/-! ## What the erased hand writes -/

section Nameless

variable {ns : List String}

theorem charsOf_slot {n : String} (hn : n ∈ ns) :
    charsOf (slot ns n) = (placeMark ns n).toList := by
  have hdigits : (toString (ns.idxOf n)).toList = Nat.toDigits 10 (ns.idxOf n) :=
    String.toList_ofList
  rw [slot, if_pos hn, placeMark, String.toList_append, hdigits]
  simp [placeholder, Token.chars]

theorem TypeExpr.charsOf_erased {t : TypeExpr} (href : ∀ n, t.reference? = some n → n ∈ ns) :
    charsOf (t.written (.erased ns)) = (t.rename (placeMark ns)).text.toList := by
  induction t with
  | named n => exact charsOf_slot (href n rfl)
  | array element ih => simp [written, rename, text, ih href, Token.chars]
  | _ => simp [written, rename, text, Token.chars]

theorem Field.charsOf_erased {f : Field} (hname : f.name ∉ ns)
    (href : ∀ n, f.type.reference? = some n → n ∈ ns) :
    charsOf (f.written (.erased ns)) = (f.nameless ns).toList := by
  have hfield : (Hand.erased ns).field f.name = [nameToken f.name] := if_neg hname
  have htype := TypeExpr.charsOf_erased href
  rw [written, hfield, nameless]
  cases h : f.optional <;> simp [optionalMark, h, htype, nameToken, Token.chars]

/-- The field names of an interface stay, and its references are written
by their places. -/
theorem Interface.charsOf_erased {i : Interface} (hname : ∀ f ∈ i.fields, f.name ∉ ns)
    (href : ∀ f ∈ i.fields, ∀ n, f.type.reference? = some n → n ∈ ns) :
    charsOf (i.written (.erased ns)) = (i.nameless ns).toList := by
  have hfields : charsOf ((Hand.erased ns).fields i.fields)
      = i.fields.flatMap fun f => ' ' :: (f.nameless ns).toList := by
    rw [Hand.fields, charsOf_flatMap]
    refine List.flatMap_congr fun f hf => ?_
    rw [charsOf_append, Field.charsOf_erased (hname f hf) (href f hf)]
    rfl
  have hdeclared : (Hand.erased ns).declared i.name = [] := rfl
  have hclose : (Hand.erased ns).close = [.mark ' '] := rfl
  rw [nameless, String.toList_intercalate, List.map_append, List.map_cons, List.cons_append,
    intercalate_cons, written, hdeclared, hclose]
  simp [hfields, Token.chars, List.flatMap_map]

end Nameless

namespace Definition

/-- **The canonical text of a separate definition** is what is left of it
without its names: each reference is replaced by the place of the type it
is to, and nothing else is. -/
theorem Separate.canonical_text {d : Definition} (hd : d.Separate) :
    canonical d.text = d.nameless := by
  have htext : canonical d.text = String.ofList (charsOf (d.written (.erased d.names))) := by
    have h := Definition.canonical_text isBlankLead_nil hd.clear
    rwa [led_nil, rename_id] at h
  have hinterface : ∀ i ∈ d.all,
      charsOf (i.written (.erased d.names)) = (i.nameless d.names).toList := by
    intro i hi
    have hfields : ∀ f ∈ i.fields, f ∈ d.fields := fun f hf => List.mem_flatMap.mpr ⟨i, hi, hf⟩
    refine Interface.charsOf_erased (fun f hf => ?_) fun f hf n hn => ?_
    · exact hd.fields _ (List.mem_map_of_mem (hfields f hf))
    · exact hd.references n (mem_references.mpr ⟨f, hfields f hf, hn⟩)
  cases d with
  | «alias» name target => exact absurd hd.interfaces (by simp [isAlias])
  | interfaces root auxiliary =>
    set ns := (Definition.interfaces root auxiliary).names
    have hauxiliary : charsOf ((Hand.erased ns).interfaces auxiliary)
        = auxiliary.flatMap fun i => ' ' :: (i.nameless ns).toList := by
      rw [Hand.interfaces, charsOf_flatMap]
      refine List.flatMap_congr fun i hi => ?_
      rw [charsOf_append, hinterface i (List.mem_cons_of_mem _ hi)]
      rfl
    have hwritten : charsOf ((Definition.interfaces root auxiliary).written (.erased ns))
        = (Definition.interfaces root auxiliary).nameless.toList := by
      rw [Definition.written, charsOf_append, hinterface root List.mem_cons_self, hauxiliary,
        nameless, String.toList_intercalate, all, List.map_cons, List.map_cons, intercalate_cons]
      simp only [List.flatMap_map]
      rfl
    rw [htext, hwritten, String.ofList_toList]

/-! ## Renaming -/

/-- References keep their places when the names they are among are
renamed and stay apart. -/
theorem placeMark_map {ρ : String → String} {ns : List String} (h : (ns.map ρ).Nodup) {n : String}
    (hn : n ∈ ns) : placeMark (ns.map ρ) (ρ n) = placeMark ns n := by
  have hslot := congrArg charsOf (slot_map h hn)
  rw [charsOf_slot (List.mem_map_of_mem hn), charsOf_slot hn] at hslot
  exact String.toList_inj.mp hslot

/-- What is left without names does not depend on the names. -/
theorem nameless_rename {d : Definition} {ρ : String → String} (hnodup : (d.names.map ρ).Nodup)
    (href : ∀ n ∈ d.references, n ∈ d.names) : (d.rename ρ).nameless = d.nameless := by
  have hfield : ∀ f ∈ d.fields,
      (f.rename ρ).nameless (d.names.map ρ) = f.nameless d.names := by
    intro f hf
    have htype : (f.type.rename ρ).rename (placeMark (d.names.map ρ))
        = f.type.rename (placeMark d.names) := by
      rw [TypeExpr.rename_rename]
      refine TypeExpr.rename_congr fun n hn => placeMark_map hnodup (href n ?_)
      exact mem_references.mpr ⟨f, hf, hn⟩
    rw [Field.nameless, Field.nameless]
    show _ ++ ((f.type.rename ρ).rename _).text ++ _ = _
    rw [htype]
    rfl
  rw [nameless, nameless, all_rename, names_rename, List.map_map]
  refine congrArg _ (List.map_congr_left fun i hi => ?_)
  have hfields : (i.rename ρ).fields.map (Field.nameless (d.names.map ρ))
      = i.fields.map (Field.nameless d.names) := by
    rw [Interface.rename, List.map_map]
    exact List.map_congr_left fun f hf => hfield f (List.mem_flatMap.mpr ⟨i, hi, hf⟩)
  rw [Function.comp_apply, Interface.nameless, Interface.nameless, hfields]

/-- **The fingerprint does not see a renaming of the declared types.**
When a definition is separate, and is so again under other names for its
types, its canonical text is the same under both and has `#i` where a type
refers to the `i`-th declared name, and nowhere a declared name. -/
theorem canonical_rename (ρ : String → String) {d : Definition} (hd : d.Separate)
    (hd' : (d.rename ρ).Separate) :
    canonical d.text = d.nameless
      ∧ canonical (d.rename ρ).text = canonical d.text
      ∧ fingerprint (d.rename ρ).text = fingerprint d.text := by
  have hnodup : (d.names.map ρ).Nodup := names_rename ρ d ▸ hd'.nodup
  have hsame : canonical (d.rename ρ).text = canonical d.text := by
    rw [hd'.canonical_text, hd.canonical_text, nameless_rename hnodup hd.references]
  refine ⟨hd.canonical_text, hsame, ?_⟩
  rw [fingerprint, fingerprint, hsame]

/-- Two interfaces whose names begin alike, with fields called like
keywords. -/
def chained : Definition :=
  .interfaces
    ⟨"Item", [⟨"type", .named "ItemItem", false⟩, ⟨"interface", .array (.named "Item"), true⟩]⟩
    [⟨"ItemItem", [⟨"id", .number, false⟩]⟩]

/-- The names of two interfaces exchanged. -/
def exchanged (n : String) : String := if n = "Item" then "ItemItem" else "Item"

/-- A definition whose names are identifiers is separate if its names are
kept apart. -/
theorem separate_of_isIdentifier {d : Definition} (halias : d.isAlias = false)
    (hnodup : d.names.Nodup)
    (hnames : ∀ n ∈ d.names, isIdentifier n = true ∧ n ∉ interfaceWords)
    (hfields : ∀ f ∈ d.fieldNames, isIdentifier f = true ∧ f ∉ d.names)
    (href : ∀ n ∈ d.references, n ∈ d.names) : d.Separate where
  interfaces := halias
  names n hn := ⟨isWordName_of_isIdentifier (hnames n hn).1, (hnames n hn).2⟩
  nodup := hnodup
  fieldNames f hf := isWordName_of_isIdentifier (hfields f hf).1
  fields f hf := (hfields f hf).2
  references := href

theorem canonical_rename_exchanged :
    chained.Separate ∧ (chained.rename exchanged).Separate
      ∧ chained.nameless
        = "interface \x7b type: #1; interface?: #0[]; \x7d interface \x7b id: number; \x7d"
      ∧ canonical (chained.rename exchanged).text = canonical chained.text := by
  have hd : chained.Separate :=
    separate_of_isIdentifier rfl (by decide) (by decide) (by decide) (by decide)
  have hd' : (chained.rename exchanged).Separate :=
    separate_of_isIdentifier rfl (by decide) (by decide) (by decide) (by decide)
  exact ⟨hd, hd', by decide, (canonical_rename exchanged hd hd').2.1⟩

end Definition

end TypedTraffic
