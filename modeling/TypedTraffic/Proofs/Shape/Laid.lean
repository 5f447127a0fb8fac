import TypedTraffic.Proofs.Declaration.Rooted
import TypedTraffic.Shape.Layout

/-!
# What a layout declares

Laying a shape out adds auxiliary interfaces behind those that are there.
The invariant of the walk says that all names are made from the root and
kept apart, and that every reference is to an interface that is declared
already (`Invariant.typeOf`, `Invariant.fieldsOf`). So the definition
that a layout leads to is rooted in the name of its root
(`rooted_definition`).
-/

namespace TypedTraffic.Layout

open Naming Text

/-- **A field over some auxiliary interfaces**: its name is that of a key
and its type refers to one of the interfaces, if to anything. -/
structure Over (l : Layout) (declared : List Interface) (f : Field) : Prop where
  /-- The name is that of a key. -/
  name : ∃ key, f.name = l.fieldName key
  /-- The reference is to a declared interface. -/
  reference : ∀ n, f.type.reference? = some n → n ∈ declared.map Interface.name

/-- **The invariant of a layout**: what holds of the auxiliary interfaces
at any point of the walk. -/
structure Invariant (l : Layout) (declared : List Interface) : Prop where
  /-- No name is declared twice, and none is the root's. -/
  nodup : (l.root :: declared.map Interface.name).Nodup
  /-- Names are the root with name characters behind it. -/
  stems : ∀ i ∈ declared, ∃ tail : String,
    i.name = l.root ++ tail ∧ ∀ c ∈ tail.toList, isNameChar c = true
  /-- Fields are over the declared interfaces. -/
  fields : ∀ i ∈ declared, ∀ f ∈ i.fields, l.Over declared f

theorem invariant_nil (l : Layout) : l.Invariant [] where
  nodup := List.nodup_singleton _
  stems _ hi := absurd hi List.not_mem_nil
  fields _ hi := absurd hi List.not_mem_nil

theorem Over.mono {l : Layout} {declared declared' : List Interface} {f : Field}
    (h : l.Over declared f) (hp : declared <+: declared') : l.Over declared' f where
  name := h.name
  reference n hn := by
    obtain ⟨i, hi, hin⟩ := List.mem_map.mp (h.reference n hn)
    exact List.mem_map.mpr ⟨i, hp.subset hi, hin⟩

/-- The name of an auxiliary interface is the root with a title behind it,
and digits behind that. -/
theorem exists_title_auxiliaryName (l : Layout) (key : SourceName) (declared : List Interface) :
    ∃ title digits : String, IsTitle title ∧ (∀ c ∈ digits.toList, c.isDigit = true)
      ∧ l.auxiliaryName key declared = l.root ++ (title ++ digits) := by
  obtain ⟨digits, heq, hdigits⟩ := firstFree_eq_append "" (l.root :: declared.map Interface.name)
    (l.root ++ titleWords "Field" (textOf key))
  refine ⟨titleWords "Field" (textOf key), digits,
    isTitle_titleWords ⟨'F', "ield".toList, rfl, by decide, by decide⟩ _,
    fun c hc => (hdigits c hc).resolve_left (by simp), ?_⟩
  rw [auxiliaryName, heq, String.append_assoc]

/-- The name of an auxiliary interface is the root with name characters
behind it. -/
theorem auxiliaryName_eq (l : Layout) (key : SourceName) (declared : List Interface) :
    ∃ tail : String, l.auxiliaryName key declared = l.root ++ tail
      ∧ ∀ c ∈ tail.toList, isNameChar c = true := by
  obtain ⟨title, digits, htitle, hdigits, heq⟩ := l.exists_title_auxiliaryName key declared
  refine ⟨title ++ digits, heq, fun c hc => ?_⟩
  rw [String.toList_append, List.mem_append] at hc
  exact hc.elim (htitle.isNameChar c) fun hc => isNameChar_of_isDigit (hdigits c hc)

/-- **What the layout of a record adds**: nothing, or one interface. -/
theorem declare_eq (l : Layout) (key : SourceName) (fields : List Field)
    (declared : List Interface) :
    (∃ i ∈ declared, fieldsToken i.fields = fieldsToken fields
        ∧ l.declare key fields declared = (.named i.name, declared))
      ∨ l.declare key fields declared
          = (.named (l.auxiliaryName key declared),
              declared ++ [⟨l.auxiliaryName key declared, fields⟩]) := by
  unfold declare
  cases halike : alike? declared fields with
  | some i =>
    refine Or.inl ⟨i, List.mem_of_find?_eq_some halike, ?_, rfl⟩
    simpa using List.find?_some halike
  | none => exact Or.inr rfl

theorem prefix_declare (l : Layout) (key : SourceName) (fields : List Field)
    (declared : List Interface) : declared <+: (l.declare key fields declared).2 := by
  rcases declare_eq l key fields declared with ⟨i, -, -, heq⟩ | heq
  · refine ⟨[], ?_⟩
    rw [heq, List.append_nil]
  · rw [heq]
    exact List.prefix_append _ _

theorem Invariant.declare {l : Layout} {declared : List Interface} (h : l.Invariant declared)
    {fields : List Field} (hf : ∀ f ∈ fields, l.Over declared f) (key : SourceName) :
    l.Invariant (l.declare key fields declared).2
      ∧ ∀ n, (l.declare key fields declared).1.reference? = some n →
          n ∈ (l.declare key fields declared).2.map Interface.name := by
  have hgrows := prefix_declare l key fields declared
  rcases declare_eq l key fields declared with ⟨i, hi, -, heq⟩ | heq
  · rw [heq]
    refine ⟨h, fun n hn => ?_⟩
    rw [← Option.some.inj hn]
    exact List.mem_map_of_mem hi
  · -- a new interface has a name that is free, and goes behind the others
    rw [heq] at hgrows ⊢
    set name := l.auxiliaryName key declared with hname
    have hfresh : name ∉ l.root :: declared.map Interface.name := firstFree_not_mem _ _ _
    refine ⟨⟨?_, fun i hi => ?_, fun i hi f hfi => ?_⟩, fun n hn => ?_⟩
    · rw [List.map_append, ← List.cons_append]
      exact h.nodup.append (List.nodup_singleton name) (by simpa using hfresh)
    · rcases List.mem_append.mp hi with hi | hi
      · exact h.stems i hi
      · rw [List.mem_singleton.mp hi]
        exact auxiliaryName_eq l key declared
    · rcases List.mem_append.mp hi with hi | hi
      · exact (h.fields i hi f hfi).mono hgrows
      · rw [List.mem_singleton.mp hi] at hfi
        exact (hf f hfi).mono hgrows
    · rw [← Option.some.inj hn, List.map_append]
      exact List.mem_append_right _ List.mem_cons_self

mutual

theorem prefix_typeOf (l : Layout) (key : SourceName) (shape : Shape)
    (declared : List Interface) : declared <+: (l.typeOf key shape declared).2 := by
  cases shape with
  | array element => exact prefix_typeOf l key element declared
  | record fields =>
    exact (prefix_fieldsOf l fields declared).trans (prefix_declare l key _ _)
  | _ => exact List.prefix_rfl

theorem prefix_fieldsOf (l : Layout) (fields : List (SourceName × Bool × Shape))
    (declared : List Interface) : declared <+: (l.fieldsOf fields declared).2 := by
  cases fields with
  | nil => exact List.prefix_rfl
  | cons field fields =>
    exact (prefix_typeOf l field.1 field.2.2 declared).trans (prefix_fieldsOf l fields _)

end

mutual

/-- **The type of a shape keeps the invariant** and refers to a declared
interface, if to anything. -/
theorem Invariant.typeOf {l : Layout} {declared : List Interface} (h : l.Invariant declared)
    (key : SourceName) (shape : Shape) :
    l.Invariant (l.typeOf key shape declared).2
      ∧ ∀ n, (l.typeOf key shape declared).1.reference? = some n →
          n ∈ (l.typeOf key shape declared).2.map Interface.name := by
  cases shape with
  | array element => exact h.typeOf key element
  | record fields =>
    obtain ⟨hinv, hover⟩ := h.fieldsOf fields
    exact hinv.declare hover key
  | _ => exact ⟨h, fun n hn => absurd hn (by simp [Layout.typeOf, TypeExpr.reference?])⟩

/-- **The fields of a record keep the invariant** and are over the
declared interfaces. -/
theorem Invariant.fieldsOf {l : Layout} {declared : List Interface} (h : l.Invariant declared)
    (fields : List (SourceName × Bool × Shape)) :
    l.Invariant (l.fieldsOf fields declared).2
      ∧ ∀ f ∈ (l.fieldsOf fields declared).1, l.Over (l.fieldsOf fields declared).2 f := by
  cases fields with
  | nil => exact ⟨h, fun f hf => absurd hf List.not_mem_nil⟩
  | cons field fields =>
    obtain ⟨hinv, href⟩ := h.typeOf field.1 field.2.2
    obtain ⟨hinv', hover⟩ := hinv.fieldsOf fields
    refine ⟨hinv', fun f hf => ?_⟩
    rcases List.mem_cons.mp hf with rfl | hf
    · have hfirst : l.Over (l.typeOf field.1 field.2.2 declared).2
          ⟨l.fieldName field.1, (l.typeOf field.1 field.2.2 declared).1, field.2.1⟩ :=
        ⟨⟨field.1, rfl⟩, href⟩
      exact hfirst.mono (prefix_fieldsOf l fields _)
    · exact hover f hf

end

/-- **The definition of a sample is rooted** in the name of its root. -/
theorem rooted_definition {l : Layout} (hnames : ∀ key, isIdentifier (l.fieldName key) = true)
    (fields : List (SourceName × Bool × Shape)) : (l.definition fields).Rooted l.root := by
  obtain ⟨hinv, hover⟩ := (invariant_nil l).fieldsOf fields
  have hfields : ∀ f ∈ (l.definition fields).fields, l.Over (l.fieldsOf fields []).2 f := by
    intro f hf
    obtain ⟨i, hi, hf⟩ := List.mem_flatMap.mp hf
    rcases List.mem_cons.mp hi with rfl | hi
    · exact hover f hf
    · exact hinv.fields i hi f hf
  refine ⟨rfl, hinv.nodup, fun n hn => ?_, fun n hn => ?_, fun n hn => ?_⟩
  · rcases List.mem_cons.mp hn with rfl | hn
    · exact ⟨"", String.append_empty.symm, by simp⟩
    · obtain ⟨i, hi, rfl⟩ := List.mem_map.mp hn
      exact hinv.stems i hi
  · obtain ⟨f, hf, rfl⟩ := List.mem_map.mp hn
    obtain ⟨key, hkey⟩ := (hfields f hf).name
    rw [hkey]
    exact hnames key
  · obtain ⟨f, hf, href⟩ := Definition.mem_references.mp hn
    exact (hfields f hf).reference n href

end TypedTraffic.Layout
