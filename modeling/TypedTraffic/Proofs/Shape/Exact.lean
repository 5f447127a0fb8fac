import TypedTraffic.Proofs.Declaration.Unnamed
import TypedTraffic.Proofs.Naming.Assigned
import TypedTraffic.Proofs.Shape.Conforming

/-!
# What a walk shares

A walk compares the lists of fields of its records by the canonical texts
they have under the name `_`, and gives records of one text one interface.
The types that a list refers to are interfaces of the walk, whose names are
the root with a title and digits behind it (`ReturnsBehind.spec`).

Leaving collisions of fingerprints aside, records that share an interface
have the same fields: the same names, types and marks in the same order,
whatever the keys are (`SharesExactly.eq_of_alike`). This holds for every
accepted prefix but two. Behind `type` or `interface` and a line end every
reference looks like a declaration, and the name that is referred to is lost
(`sharesExactly_iff`).
-/

namespace TypedTraffic.Layout

open Naming Text Canonical

/-! ## The points of a walk -/

/-- **What is declared at some point of a walk**: after whatever was laid out
before it. -/
inductive Reached (l : Layout) : List Interface → Prop
  /-- Nothing is declared at the beginning. -/
  | start : Reached l []
  /-- The values of a key are laid out. -/
  | laid {declared : List Interface} (key : SourceName) (shape : Shape) :
    Reached l declared → Reached l (l.typeOf key shape declared).2

/-- **A list of fields that a walk returns** for a record, at some point. -/
def Returns (l : Layout) (fs : List Field) : Prop :=
  ∃ declared fields, l.Reached declared ∧ fs = (l.fieldsOf fields declared).1

theorem Reached.fieldsOf {l : Layout} {declared : List Interface} (h : l.Reached declared)
    (fields : List (SourceName × Bool × Shape)) : l.Reached (l.fieldsOf fields declared).2 := by
  induction fields generalizing declared with
  | nil => exact h
  | cons field fields ih => exact ih (h.laid field.1 field.2.2)

mutual

/-- What a walk comes across is returned at some point. -/
theorem Reached.returns_of_mem_listsOf {l : Layout} {declared : List Interface}
    (h : l.Reached declared) (key : SourceName) (shape : Shape) :
    ∀ fs ∈ l.listsOf key shape declared, l.Returns fs := by
  intro fs hfs
  cases shape with
  | array element => exact h.returns_of_mem_listsOf key element fs hfs
  | record fields =>
    rw [listsOf, List.mem_append, List.mem_singleton] at hfs
    rcases hfs with hfs | hfs
    · exact h.returns_of_mem_listsOfFields fields fs hfs
    · exact ⟨declared, fields, h, hfs⟩
  | _ => exact absurd hfs List.not_mem_nil

theorem Reached.returns_of_mem_listsOfFields {l : Layout} {declared : List Interface}
    (h : l.Reached declared) (fields : List (SourceName × Bool × Shape)) :
    ∀ fs ∈ l.listsOfFields fields declared, l.Returns fs := by
  intro fs hfs
  cases fields with
  | nil => exact absurd hfs List.not_mem_nil
  | cons field fields =>
    rcases List.mem_append.mp hfs with hfs | hfs
    · exact h.returns_of_mem_listsOf field.1 field.2.2 fs hfs
    · exact (h.laid field.1 field.2.2).returns_of_mem_listsOfFields fields fs hfs

end

/-! ## What a walk declares -/

/-- **An interface that a walk declares**: its name was given to an auxiliary
interface, and its fields were returned for a record. -/
structure Declares (l : Layout) (i : Interface) : Prop where
  /-- The name was free at some point. -/
  name : ∃ key declared, i.name = l.auxiliaryName key declared
  /-- The fields are those of a record. -/
  fields : l.Returns i.fields

theorem declares_declare {l : Layout} {declared : List Interface}
    (h : ∀ i ∈ declared, l.Declares i) (key : SourceName) {fs : List Field} (hfs : l.Returns fs) :
    ∀ i ∈ (l.declare key fs declared).2, l.Declares i := by
  rcases declare_eq l key fs declared with ⟨i, -, -, heq⟩ | heq
  · rw [heq]
    exact h
  · rw [heq]
    intro i hi
    rcases List.mem_append.mp hi with hi | hi
    · exact h i hi
    · rw [List.mem_singleton.mp hi]
      exact ⟨⟨key, declared, rfl⟩, hfs⟩

mutual

theorem declares_typeOf {l : Layout} {declared : List Interface} (hreached : l.Reached declared)
    (h : ∀ i ∈ declared, l.Declares i) (key : SourceName) (shape : Shape) :
    ∀ i ∈ (l.typeOf key shape declared).2, l.Declares i := by
  cases shape with
  | array element => exact declares_typeOf hreached h key element
  | record fields =>
    exact declares_declare (declares_fieldsOf hreached h fields) key
      ⟨declared, fields, hreached, rfl⟩
  | _ => exact h

theorem declares_fieldsOf {l : Layout} {declared : List Interface} (hreached : l.Reached declared)
    (h : ∀ i ∈ declared, l.Declares i) (fields : List (SourceName × Bool × Shape)) :
    ∀ i ∈ (l.fieldsOf fields declared).2, l.Declares i := by
  cases fields with
  | nil => exact h
  | cons field fields =>
    exact declares_fieldsOf (hreached.laid field.1 field.2.2)
      (declares_typeOf hreached h field.1 field.2.2) fields

end

/-- **What holds at every point of a walk**: its invariant, and every
interface is one that a walk declares. -/
theorem Reached.spec {l : Layout} {declared : List Interface} (h : l.Reached declared) :
    l.Invariant declared ∧ ∀ i ∈ declared, l.Declares i := by
  induction h with
  | start => exact ⟨l.invariant_nil, fun i hi => absurd hi List.not_mem_nil⟩
  | laid key shape hreached ih =>
    exact ⟨(ih.1.typeOf key shape).1, declares_typeOf hreached ih.2 key shape⟩

/-! ## The names of auxiliary interfaces -/

/-- **The first free name**: the stem, or the stem with the least positive
number behind it that is not in use. -/
structure IsFirstFree (stem name : String) (used : List String) : Prop where
  /-- The name is not in use. -/
  free : name ∉ used
  /-- It is the stem, if that is not in use, and else the least of its
  series. -/
  least : name = stem ∨ stem ∈ used ∧ ∃ k, 0 < k ∧ name = stem ++ toString k
    ∧ ∀ j, 0 < j → j < k → stem ++ toString j ∈ used

/-- **Auxiliary interfaces that are kept apart.** -/
structure NamesApart (l : Layout) : Prop where
  /-- At every point of a walk the declared names are different from each
  other and from the root. -/
  reached : ∀ {declared}, l.Reached declared → (l.root :: declared.map Interface.name).Nodup
  /-- In the definition at its end they are, too. -/
  definition : ∀ fields, (l.definition fields).name = l.root ∧ (l.definition fields).names.Nodup
  /-- The search for a name ends at the first that is free. -/
  search : ∀ key declared, IsFirstFree (l.root ++ titleWords "Field" (textOf key))
    (l.auxiliaryName key declared) (l.root :: declared.map Interface.name)

theorem namesApart (l : Layout) : l.NamesApart where
  reached h := h.spec.1.nodup
  definition fields := ⟨rfl, (Reached.start.fieldsOf fields).spec.1.nodup⟩
  search key declared := by
    have hcases := firstFree_cases "" (l.root :: declared.map Interface.name)
      (l.root ++ titleWords "Field" (textOf key))
    simp only [String.append_empty] at hcases
    refine ⟨firstFree_not_mem _ _ _, ?_⟩
    rcases hcases with ⟨-, heq⟩ | ⟨hused, k, hk, heq, -, hleast⟩
    · exact Or.inl heq
    · exact Or.inr ⟨hused, k, hk, heq, hleast⟩

/-! ## Lists of fields behind a prefix -/

/-- **A list of fields that a walk returns behind a prefix**, whatever the
root is called and whichever fields have names already. -/
def ReturnsBehind (p : String) (fs : List Field) : Prop :=
  ∃ (core : String) (names : FieldNames), Naming.isIdentifier core = true ∧ names.Reachable
    ∧ Returns ⟨p ++ core, names.fieldName⟩ fs

/-- **Sharing is exact behind a prefix**: lists of fields that have one
canonical text are equal. -/
def SharesExactly (p : String) : Prop :=
  ∀ fs fs', ReturnsBehind p fs → ReturnsBehind p fs' →
    canonical (Interface.text ⟨"_", fs⟩) = canonical (Interface.text ⟨"_", fs'⟩) → fs = fs'

/-- The fields of such a list are called by identifiers and refer to type
names behind the prefix. -/
theorem ReturnsBehind.spec {p : String} {fs : List Field} (h : ReturnsBehind p fs) :
    ∀ f ∈ fs, Naming.isIdentifier f.name = true
      ∧ ∀ n, f.type.reference? = some n → ∃ m, IsTypeName m ∧ n = p ++ m := by
  obtain ⟨core, names, hcore, hnames, declared, fields, hreached, rfl⟩ := h
  set l : Layout := ⟨p ++ core, names.fieldName⟩ with hl
  obtain ⟨-, hover⟩ := hreached.spec.1.fieldsOf fields
  obtain ⟨-, hdeclares⟩ := (hreached.fieldsOf fields).spec
  intro f hf
  obtain ⟨⟨key, hkey⟩, href⟩ := hover f hf
  refine ⟨?_, fun n hn => ?_⟩
  · rw [hkey]
    exact hnames.isIdentifier_fieldName key
  · obtain ⟨i, hi, rfl⟩ := List.mem_map.mp (href n hn)
    obtain ⟨key, declared, hname⟩ := (hdeclares i hi).name
    obtain ⟨title, digits, htitle, hdigits, heq⟩ := l.exists_title_auxiliaryName key declared
    refine ⟨core ++ title ++ digits, ?_, ?_⟩
    · have hne : core.toList ≠ [] := by
        obtain ⟨⟨c, cs, hcs, -⟩, -⟩ := isIdentifier_iff.mp hcore
        rw [hcs]
        simp
      have hstem : IsTypeName (core ++ title) :=
        ⟨isIdentifier_append hcore htitle.isNameChar, exists_isUpper_tail_append hne htitle⟩
      exact hstem.append fun c hc => isNameChar_of_isDigit (hdigits c hc)
    · rw [hname, heq]
      simp only [hl, String.append_assoc]

/-- Such a list is one of clear fields, with what the prefix puts in front of
their types. -/
theorem ReturnsBehind.exists_clear {p : String} {lead : List Token} (hfront : PutsInFront p lead)
    {fs : List Field} (h : ReturnsBehind p fs) :
    ∃ gs : List Field, (∀ g ∈ gs, g.Clear) ∧ fs = gs.map (Field.rename (led lead)) := by
  obtain ⟨back, hback⟩ := (led_injective lead).hasLeftInverse
  have hspec := h.spec
  have hled : ∀ f ∈ fs, ∀ n, f.type.reference? = some n →
      ∃ core, IsTypeName core ∧ n = led lead core := by
    intro f hf n hn
    obtain ⟨m, hm, rfl⟩ := (hspec f hf).2 n hn
    exact hfront m hm
  refine ⟨fs.map (Field.rename back), fun g hg => ?_, ?_⟩
  · obtain ⟨f, hf, rfl⟩ := List.mem_map.mp hg
    refine ⟨isWordName_of_isIdentifier (hspec f hf).1, fun n hn => ?_⟩
    rw [Field.rename, TypeExpr.reference?_rename, Option.map_eq_some_iff] at hn
    obtain ⟨m, hm, rfl⟩ := hn
    obtain ⟨core, hcore, rfl⟩ := hled f hf m hm
    rw [hback core]
    exact (isFreeName_of_isTypeName hcore).isClearName
  · rw [List.map_map]
    refine (List.map_id fs).symm.trans (List.map_congr_left fun f hf => ?_)
    have htype : f.type.rename (led lead ∘ back) = f.type.rename id := by
      refine TypeExpr.rename_congr fun n hn => ?_
      obtain ⟨core, -, rfl⟩ := hled f hf n hn
      rw [Function.comp_apply, hback core, id_eq]
    simp only [Function.comp_apply, Field.rename, TypeExpr.rename_rename, htype,
      TypeExpr.rename_id, id_eq]

/-- **An accepted prefix is not seen in front of types**, unless it is a
keyword and a line end. -/
theorem exists_silentLead {p : String} (hp : Options.acceptsPrefix p = true)
    (htype : p ≠ "type\n") (hinterface : p ≠ "interface\n") :
    ∃ lead lead', SilentLead lead lead' ∧ PutsInFront p lead := by
  obtain ⟨lead, hlead, hfront⟩ := exists_lead_of_prefix hp
  rcases hlead with hblank | ⟨q, hq, rfl, rfl⟩
  · exact ⟨lead, [], hblank.silent, hfront⟩
  · have hkey : isKeyword q.toList = false := by
      rw [← Bool.not_eq_true, isKeyword, Bool.or_eq_true, beq_iff_eq, beq_iff_eq,
        String.toList_inj, String.toList_inj]
      rintro (rfl | rfl)
      · exact hinterface rfl
      · exact htype rfl
    exact ⟨_, _, silentLead_wordLead (isWordName_of_isIdentifier hq) hkey, hfront⟩

/-- Sharing is exact behind a prefix that is not seen in front of types. -/
theorem sharesExactly_of_silentLead {p : String} {lead lead' : List Token}
    (hl : SilentLead lead lead') (hfront : PutsInFront p lead) : SharesExactly p := by
  intro fs fs' hfs hfs' heq
  obtain ⟨gs, hgs, rfl⟩ := hfs.exists_clear hfront
  obtain ⟨gs', hgs', rfl⟩ := hfs'.exists_clear hfront
  rw [hl.fields_eq_of_canonical_eq hgs hgs' heq]

/-- **Records that share an interface have its fields**, where sharing is
exact and the fingerprint stands for one canonical text. -/
theorem SharesExactly.eq_of_alike {p core : String} {names : FieldNames} (h : SharesExactly p)
    (hcore : Naming.isIdentifier core = true) (hnames : names.Reachable)
    {declared : List Interface} (hreached : Reached ⟨p ++ core, names.fieldName⟩ declared)
    {fs : List Field} (hfs : Returns ⟨p ++ core, names.fieldName⟩ fs) {i : Interface}
    (halike : alike? declared fs = some i)
    (hfingerprint : fieldsToken i.fields = fieldsToken fs →
      canonical (Interface.text ⟨"_", i.fields⟩) = canonical (Interface.text ⟨"_", fs⟩)) :
    i.fields = fs := by
  have hi := (hreached.spec.2 i (List.mem_of_find?_eq_some halike)).fields
  have htoken : fieldsToken i.fields = fieldsToken fs := by
    simpa using List.find?_some halike
  exact h _ _ ⟨core, names, hcore, hnames, hi⟩ ⟨core, names, hcore, hnames, hfs⟩
    (hfingerprint htoken)

/-! ## Keywords in front of types -/

/-- A record with one number. -/
def oneNumber (key : String) : Shape := .record [(codePoints key, false, .number)]

/-- A record with one record in it, which has one number. -/
def nested (key : String) : List (SourceName × Bool × Shape) :=
  [(codePoints "x", false, oneNumber key)]

/-- The list of fields of a record in front of which another is laid out. -/
def behindAnother (l : Layout) : List Field :=
  (l.fieldsOf (nested "v") (l.typeOf (codePoints "x") (oneNumber "u") []).2).1

/-- **Behind a keyword and a line end** two records share an interface though
their fields have different types. -/
theorem not_sharesExactly {p : String} (hp : p = "type\n" ∨ p = "interface\n") :
    ¬ SharesExactly p := by
  intro h
  set l : Layout := ⟨p ++ "R", FieldNames.fieldName Table.empty⟩ with hl
  have hfirst : ReturnsBehind p (l.fieldsOf (nested "u") []).1 :=
    ⟨"R", Table.empty, by decide, .empty, [], nested "u", .start, rfl⟩
  have hsecond : ReturnsBehind p l.behindAnother :=
    ⟨"R", Table.empty, by decide, .empty, _, nested "v", .laid _ _ .start, rfl⟩
  have hcanonical : canonical (Interface.text ⟨"_", (l.fieldsOf (nested "u") []).1⟩)
      = canonical (Interface.text ⟨"_", l.behindAnother⟩) := by
    rcases hp with rfl | rfl <;> decide +kernel
  have hne : (l.fieldsOf (nested "u") []).1 ≠ l.behindAnother := by
    rcases hp with rfl | rfl <;> decide +kernel
  exact hne (h _ _ hfirst hsecond hcanonical)

/-- **Sharing is exact, but not behind every accepted prefix.** -/
theorem not_sharesExactly_of_acceptsPrefix :
    ¬ ∀ p, Options.acceptsPrefix p = true → SharesExactly p :=
  fun h => not_sharesExactly (Or.inl rfl) (h "type\n" (by decide))

/-- **What a walk shares.** Behind an accepted prefix lists of fields that a
walk returns and that have one canonical text under the name `_` are equal,
exactly if the prefix is not a keyword and a line end. Whatever the root is
called, the auxiliary interfaces of a walk have names that are different from
each other and from the root, and the search for a name ends at the first
that is free. -/
theorem sharesExactly_iff {p : String} (hp : Options.acceptsPrefix p = true) :
    (SharesExactly p ↔ p ≠ "type\n" ∧ p ≠ "interface\n") ∧ ∀ l : Layout, l.NamesApart := by
  refine ⟨⟨fun h => ?_, fun ⟨htype, hinterface⟩ => ?_⟩, namesApart⟩
  · exact ⟨fun heq => not_sharesExactly (Or.inl heq) h, fun heq => not_sharesExactly (Or.inr heq) h⟩
  · obtain ⟨lead, lead', hl, hfront⟩ := exists_silentLead hp htype hinterface
    exact sharesExactly_of_silentLead hl hfront

/-- What a walk shares behind a prefix with a line end. -/
theorem sharesExactly_iff_lineEnd :
    Options.acceptsPrefix "X\n" = true
      ∧ (SharesExactly "X\n" ↔ "X\n" ≠ "type\n" ∧ "X\n" ≠ "interface\n")
      ∧ ∀ l : Layout, l.NamesApart :=
  ⟨by decide, sharesExactly_iff (by decide)⟩

end TypedTraffic.Layout
