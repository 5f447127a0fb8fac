import TypedTraffic.Naming.Identifier
import TypedTraffic.Naming.Numbered

/-!
# Tables of assigned names

A table remembers which name each source name was given, and beside that
which names are taken. A source name keeps the name it first received,
and no two source names share one: a name that is taken gives way to the
first free one of its series.
-/

namespace TypedTraffic.Naming

/-- **A table of assigned names**, latest assignment first. -/
structure Table (α : Type) where
  /-- The source names with the name each was given. -/
  entries : List (α × String)
  /-- The names that are taken. -/
  taken : List String

namespace Table

variable {α : Type} [BEq α]

/-- The table in which nothing has a name yet. -/
def empty : Table α := ⟨[], []⟩

/-- The number of source names that have a name. -/
def size (t : Table α) : Nat := t.entries.length

/-- The name a source name was given. -/
def find? (t : Table α) (source : α) : Option String := t.entries.lookup source

/-- Whether a source name has a name. -/
def contains (t : Table α) (source : α) : Bool := (t.find? source).isSome

/-- **Give a source name a name**: the one it has, else the first free
one of the series `base`, `base_1`, `base_2`, … -/
def assign (t : Table α) (source : α) (base : String) : String × Table α :=
  match t.find? source with
  | some name => (name, t)
  | none =>
    let name := firstFree "_" t.taken base
    (name, ⟨(source, name) :: t.entries, name :: t.taken⟩)

end Table

/-- The names of fields, by the source names they stand for. -/
abbrev FieldNames := Table SourceName

/-- **Name a field**: what `fieldBase` asks for, made unique. -/
def FieldNames.nameField (names : FieldNames) (source : SourceName) : String × FieldNames :=
  names.assign source (fieldBase source)

/-- Name the fields of several source names, in order. -/
def FieldNames.nameFields (names : FieldNames) (sources : List SourceName) : FieldNames :=
  sources.foldl (fun names source => (names.nameField source).2) names

/-- The name of a field that has one, else the name it asks for. -/
def FieldNames.fieldName (names : FieldNames) (source : SourceName) : String :=
  (names.find? source).getD (fieldBase source)

end TypedTraffic.Naming
