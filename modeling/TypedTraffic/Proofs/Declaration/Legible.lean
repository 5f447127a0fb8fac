import Mathlib.Data.Set.Function
import TypedTraffic.Declaration.Basic
import TypedTraffic.Proofs.Naming.Identifier

/-!
# Legible definitions

The names of a definition stand in three places: behind the keyword of a
declaration, in front of a colon as the name of a field, and in a type as
a reference. A definition is **legible** when the names of all three
places are identifiers, no declared name or reference is a reserved word
and no name is declared twice. It is **closed** when its references are
to its auxiliary interfaces.

Renaming the types of a definition changes its declared names and its
references and leaves the names of its fields alone. Two definitions
have the **same shape** when a renaming that keeps the declared names
apart leads from one to the other.
-/

namespace TypedTraffic

open Naming

/-! ## The names of a definition -/

/-- A type without its list brackets. -/
def TypeExpr.base : TypeExpr → TypeExpr
  | .array element => element.base
  | .any => .any
  | .boolean => .boolean
  | .number => .number
  | .string => .string
  | .queryValue => .queryValue
  | .named name => .named name

/-- The name a type refers to, if it refers to one. -/
def TypeExpr.reference? : TypeExpr → Option String
  | .array element => element.reference?
  | .named name => some name
  | _ => none

/-- The interfaces of a definition, the root first. -/
def Definition.all : Definition → List Interface
  | .interfaces root auxiliary => root :: auxiliary
  | .alias _ _ => []

/-- The fields of a definition, those of all its interfaces. -/
def Definition.fields (d : Definition) : List Field := d.all.flatMap Interface.fields

/-- The names of the fields of a definition. -/
def Definition.fieldNames (d : Definition) : List String := d.fields.map Field.name

/-- The names the fields of a definition refer to. -/
def Definition.references (d : Definition) : List String :=
  d.fields.filterMap fun f => f.type.reference?

/-- The name of a definition: the first that it declares. -/
def Definition.name : Definition → String
  | .interfaces root _ => root.name
  | .alias name _ => name

/-- The names of the auxiliary interfaces of a definition. -/
def Definition.auxiliaryNames : Definition → List String
  | .interfaces _ auxiliary => auxiliary.map Interface.name
  | .alias _ _ => []

theorem Definition.names_eq_cons (d : Definition) : d.names = d.name :: d.auxiliaryNames := by
  cases d <;> rfl

/-- A type that refers to nothing is one of the primitive types, a type
that does is a name, in either case with list brackets behind. -/
theorem TypeExpr.base_eq (t : TypeExpr) :
    (t.reference? = none ∧ t.base ∈ [TypeExpr.any, .number, .string, .boolean, .queryValue])
      ∨ ∃ n, t.reference? = some n ∧ t.base = .named n := by
  induction t with
  | named n => exact Or.inr ⟨n, rfl, rfl⟩
  | array element ih => exact ih
  | any => exact Or.inl ⟨rfl, by decide⟩
  | boolean => exact Or.inl ⟨rfl, by decide⟩
  | number => exact Or.inl ⟨rfl, by decide⟩
  | string => exact Or.inl ⟨rfl, by decide⟩
  | queryValue => exact Or.inl ⟨rfl, by decide⟩

theorem Definition.mem_references {d : Definition} {n : String} :
    n ∈ d.references ↔ ∃ f ∈ d.fields, f.type.reference? = some n :=
  List.mem_filterMap

/-! ## Legibility -/

/-- A name that can be told from the words of the language. -/
def IsFreeName (n : String) : Prop := isIdentifier n = true ∧ n ∉ reservedWords

/-- **A legible definition**: its names can be told from the words and
marks around them. -/
structure Definition.Legible (d : Definition) : Prop where
  /-- Declared names are identifiers and no reserved words. -/
  names : ∀ n ∈ d.names, IsFreeName n
  /-- No name is declared twice. -/
  nodup : d.names.Nodup
  /-- The names of fields are identifiers. -/
  fieldNames : ∀ f ∈ d.fieldNames, isIdentifier f = true
  /-- References are identifiers and no reserved words. -/
  references : ∀ n ∈ d.references, IsFreeName n

/-! ### Clear definitions -/

/-- **A name that is a word**: word characters, the first of them no
digit. -/
structure IsWordName (n : String) : Prop where
  /-- A word is not empty and does not begin with a digit. -/
  first : ∃ c cs, n.toList = c :: cs ∧ c.isDigit = false
  /-- All its characters are word characters. -/
  word : ∀ c ∈ n.toList, Text.isWord c = true

/-- Identifiers are words. -/
theorem isWordName_of_isIdentifier {n : String} (h : isIdentifier n = true) : IsWordName n :=
  ⟨(isIdentifier_iff.mp h).1, fun c hc => isWord_of_mem_name ((isIdentifier_iff.mp h).2 c hc)⟩

/-- The words that interfaces are written with. -/
def interfaceWords : List String := ["interface", "type", "any", "number", "string", "boolean"]

/-- A word that can be told from the words of interfaces. -/
def IsClearName (n : String) : Prop := IsWordName n ∧ n ∉ interfaceWords

theorem IsFreeName.isClearName {n : String} (h : IsFreeName n) : IsClearName n := by
  have hsub : ∀ w ∈ interfaceWords, w ∈ reservedWords := by decide
  exact ⟨isWordName_of_isIdentifier h.1, fun hn => h.2 (hsub n hn)⟩

/-- **A clear definition**: its names are words that can be told from the
words around them. This is all that its text needs to be read; names may
have letters of any script, and an interface may be called like the target
of an alias. -/
structure Definition.Clear (d : Definition) : Prop where
  /-- Declared names are words, and none of the words of interfaces. -/
  names : ∀ n ∈ d.names, IsClearName n
  /-- No name is declared twice. -/
  nodup : d.names.Nodup
  /-- The names of fields are words. -/
  fieldNames : ∀ f ∈ d.fieldNames, IsWordName f
  /-- References are words, and none of the words of interfaces. -/
  references : ∀ n ∈ d.references, IsClearName n
  /-- An alias is not called like its target. -/
  target : d.isAlias = true → "Record" ∉ d.names

/-- Legible definitions are clear. -/
theorem Definition.Legible.clear {d : Definition} (h : d.Legible) : d.Clear where
  names n hn := (h.names n hn).isClearName
  nodup := h.nodup
  fieldNames f hf := isWordName_of_isIdentifier (h.fieldNames f hf)
  references n hn := (h.references n hn).isClearName
  target _ hn := (h.names _ hn).2 (by decide)

/-! ### Closed definitions -/

/-- **A closed definition**: every reference is to an auxiliary
interface. -/
def Definition.Closed (d : Definition) : Prop := ∀ n ∈ d.references, n ∈ d.auxiliaryNames

/-! ## Renaming -/

/-- A type with its references renamed. -/
def TypeExpr.rename (ρ : String → String) : TypeExpr → TypeExpr
  | .array element => .array (element.rename ρ)
  | .named name => .named (ρ name)
  | .any => .any
  | .boolean => .boolean
  | .number => .number
  | .string => .string
  | .queryValue => .queryValue

/-- A field with the references of its type renamed. -/
def Field.rename (ρ : String → String) (f : Field) : Field := { f with type := f.type.rename ρ }

/-- An interface with its name and its references renamed. -/
def Interface.rename (ρ : String → String) (i : Interface) : Interface :=
  ⟨ρ i.name, i.fields.map (Field.rename ρ)⟩

/-- **A definition with its types renamed**; the names of fields stay. -/
def Definition.rename (ρ : String → String) : Definition → Definition
  | .interfaces root auxiliary => .interfaces (root.rename ρ) (auxiliary.map (Interface.rename ρ))
  | .alias name target => .alias (ρ name) target

/-- **Two definitions of one shape**: the same interfaces in the same
order, with the same field names, the same marks for what is optional and
the same types, up to names of types that are kept apart. -/
def Definition.SameShape (d d' : Definition) : Prop :=
  ∃ ρ : String → String, Set.InjOn ρ {n | n ∈ d.names} ∧ d.rename ρ = d'

theorem TypeExpr.reference?_rename (ρ : String → String) (t : TypeExpr) :
    (t.rename ρ).reference? = t.reference?.map ρ := by
  induction t with
  | array element ih => exact ih
  | _ => rfl

theorem TypeExpr.rename_rename (ρ σ : String → String) (t : TypeExpr) :
    (t.rename ρ).rename σ = t.rename (σ ∘ ρ) := by
  induction t with
  | array element ih => exact congrArg TypeExpr.array ih
  | _ => rfl

theorem TypeExpr.rename_congr {ρ σ : String → String} {t : TypeExpr}
    (h : ∀ n, t.reference? = some n → ρ n = σ n) : t.rename ρ = t.rename σ := by
  induction t with
  | array element ih => exact congrArg TypeExpr.array (ih h)
  | named n => exact congrArg TypeExpr.named (h n rfl)
  | _ => rfl

theorem TypeExpr.rename_id (t : TypeExpr) : t.rename id = t := by
  induction t with
  | array element ih => exact congrArg TypeExpr.array ih
  | _ => rfl

theorem Interface.rename_rename (ρ σ : String → String) (i : Interface) :
    (i.rename ρ).rename σ = i.rename (σ ∘ ρ) := by
  simp only [Interface.rename, List.map_map, Function.comp_apply]
  refine congrArg (Interface.mk _) (List.map_congr_left fun f _ => ?_)
  simp only [Function.comp_apply, Field.rename, TypeExpr.rename_rename]

theorem Definition.rename_rename (ρ σ : String → String) (d : Definition) :
    (d.rename ρ).rename σ = d.rename (σ ∘ ρ) := by
  cases d with
  | interfaces root auxiliary =>
    simp only [Definition.rename, List.map_map, Interface.rename_rename]
    exact congrArg _ (List.map_congr_left fun i _ => Interface.rename_rename ρ σ i)
  | «alias» name target => rfl

theorem Interface.rename_congr {ρ σ : String → String} {i : Interface} (hname : ρ i.name = σ i.name)
    (href : ∀ f ∈ i.fields, ∀ n, f.type.reference? = some n → ρ n = σ n) :
    i.rename ρ = i.rename σ := by
  unfold Interface.rename
  rw [hname]
  refine congrArg (Interface.mk _) (List.map_congr_left fun f hf => ?_)
  simp only [Field.rename, TypeExpr.rename_congr (href f hf)]

/-- **Renamings that agree on the names of a definition** do the same to
it. -/
theorem Definition.rename_congr {ρ σ : String → String} {d : Definition}
    (hnames : ∀ n ∈ d.names, ρ n = σ n) (href : ∀ n ∈ d.references, ρ n = σ n) :
    d.rename ρ = d.rename σ := by
  cases d with
  | interfaces root auxiliary =>
    have hi : ∀ i ∈ root :: auxiliary, i.rename ρ = i.rename σ := by
      intro i hi
      refine Interface.rename_congr (hnames _ (List.mem_map_of_mem hi)) (fun f hf n hn => ?_)
      exact href n (mem_references.mpr ⟨f, List.mem_flatMap.mpr ⟨i, hi, hf⟩, hn⟩)
    simp only [Definition.rename]
    rw [hi root List.mem_cons_self]
    exact congrArg _ (List.map_congr_left fun i h => hi i (List.mem_cons_of_mem _ h))
  | «alias» name target =>
    exact congrArg (Definition.alias · target) (hnames name List.mem_cons_self)

theorem Definition.rename_id (d : Definition) : d.rename id = d := by
  have hi : ∀ i : Interface, i.rename id = i := by
    intro i
    have hf : i.fields.map (Field.rename id) = i.fields := by
      rw [List.map_congr_left (g := id) (fun f _ => ?_), List.map_id]
      simp only [Field.rename, TypeExpr.rename_id, id_eq]
    simp only [Interface.rename, hf, id_eq]
  cases d with
  | interfaces root auxiliary =>
    simp only [Definition.rename]
    rw [hi, List.map_congr_left (g := id) (fun i _ => hi i), List.map_id]
  | «alias» name target => rfl

@[simp] theorem Definition.all_rename (ρ : String → String) (d : Definition) :
    (d.rename ρ).all = d.all.map (Interface.rename ρ) := by
  cases d <;> rfl

@[simp] theorem Definition.fields_rename (ρ : String → String) (d : Definition) :
    (d.rename ρ).fields = d.fields.map (Field.rename ρ) := by
  simp only [Definition.fields, Definition.all_rename, List.flatMap_map, List.map_flatMap]
  rfl

@[simp] theorem Definition.names_rename (ρ : String → String) (d : Definition) :
    (d.rename ρ).names = d.names.map ρ := by
  cases d with
  | interfaces root auxiliary =>
    simp [Definition.rename, Definition.names, Interface.rename, Function.comp_def]
  | «alias» name target => rfl

@[simp] theorem Definition.name_rename (ρ : String → String) (d : Definition) :
    (d.rename ρ).name = ρ d.name := by
  cases d <;> rfl

@[simp] theorem Definition.auxiliaryNames_rename (ρ : String → String) (d : Definition) :
    (d.rename ρ).auxiliaryNames = d.auxiliaryNames.map ρ := by
  cases d with
  | interfaces root auxiliary =>
    simp [Definition.rename, Definition.auxiliaryNames, Interface.rename, Function.comp_def]
  | «alias» name target => rfl

@[simp] theorem Definition.fieldNames_rename (ρ : String → String) (d : Definition) :
    (d.rename ρ).fieldNames = d.fieldNames := by
  simp only [Definition.fieldNames, Definition.fields_rename, List.map_map]
  rfl

@[simp] theorem Definition.references_rename (ρ : String → String) (d : Definition) :
    (d.rename ρ).references = d.references.map ρ := by
  simp only [Definition.references, Definition.fields_rename, List.filterMap_map,
    List.map_filterMap]
  refine List.filterMap_congr fun f _ => ?_
  exact TypeExpr.reference?_rename ρ f.type

end TypedTraffic
