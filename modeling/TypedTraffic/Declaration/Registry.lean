import TypedTraffic.Fingerprint
import TypedTraffic.Naming.Numbered

/-!
# The registry of definitions

The definitions of a run in the order of their registration. With
sharing on, a definition whose fingerprint is already present stands for
the earliest one that has it; otherwise every registration makes a new
entry, under a name no entry has or declares.

Two indexes go with the entries, one for the fingerprints and one for the
names. They are kept in step with the entries by the type of a registry:
every operation that changes the entries shows what the indexes say after
it (`TypeRegistry.insert`).
-/

namespace TypedTraffic

/-- **A registered definition.** -/
structure TypeEntry where
  /-- The name other declarations and functions refer to it by. -/
  name : String
  /-- The text of the definition. -/
  definition : String
  /-- The fingerprint of the text. -/
  fingerprint : String
  /-- The names the text declares. -/
  declared : List String
  deriving DecidableEq

/-- The entry of a definition under a name. -/
def TypeEntry.of (name definition : String) : TypeEntry :=
  ⟨name, definition, TypedTraffic.fingerprint definition, Canonical.declaredNames definition⟩

/-- The names an entry occupies. -/
def TypeEntry.names (e : TypeEntry) : List String := e.name :: e.declared

/-- **The registry of definitions**: the entries with two indexes of
them. -/
structure TypeRegistry where
  /-- Whether definitions of one fingerprint are shared. -/
  shared : Bool
  /-- The entries, in order of registration. -/
  entries : List TypeEntry
  /-- The entries by fingerprint, one for each. -/
  byFingerprint : List (String × TypeEntry)
  /-- The names that are occupied. -/
  names : List String
  /-- Under a fingerprint is the earliest entry that has it. -/
  lookup_byFingerprint :
    ∀ f, byFingerprint.lookup f = entries.find? (·.fingerprint == f)
  /-- The names are those that the entries occupy. -/
  mem_names : ∀ n, n ∈ names ↔ n ∈ entries.flatMap TypeEntry.names

/-- The one reason a definition is refused. -/
inductive RegistryError where
  /-- The name is occupied by an entry. -/
  | nameTaken (name : String)
  deriving DecidableEq

/-- The text of a refusal. -/
def RegistryError.message : RegistryError → String
  | .nameTaken name => "Type name already registered: " ++ name

namespace TypeRegistry

/-- The registry without entries. -/
def empty (shared : Bool) : TypeRegistry :=
  ⟨shared, [], [], [], fun _ => rfl, fun _ => Iff.rfl⟩

/-- The number of entries. -/
def size (r : TypeRegistry) : Nat := r.entries.length

/-- The registry with its entries removed. -/
def cleared (r : TypeRegistry) : TypeRegistry := empty r.shared

/-- The names that the entries occupy. -/
def taken (r : TypeRegistry) : List String := r.entries.flatMap TypeEntry.names

/-- **A free name for a stem**: the stem, or the stem with the least
number that makes it free. -/
def available (r : TypeRegistry) (stem : String) : String :=
  Naming.firstFree "" r.names stem

/-- The earliest entry with a fingerprint. -/
def find? (r : TypeRegistry) (fingerprint : String) : Option TypeEntry :=
  r.byFingerprint.lookup fingerprint

theorem find?_eq (r : TypeRegistry) (fingerprint : String) :
    r.find? fingerprint = r.entries.find? (·.fingerprint == fingerprint) :=
  r.lookup_byFingerprint fingerprint

theorem mem_names_iff (r : TypeRegistry) (n : String) : n ∈ r.names ↔ n ∈ r.taken :=
  r.mem_names n

/-- The index by fingerprint with one entry more, unless there is one of
its fingerprint. -/
def indexed (r : TypeRegistry) (e : TypeEntry) : List (String × TypeEntry) :=
  match r.find? e.fingerprint with
  | some _ => r.byFingerprint
  | none => r.byFingerprint ++ [(e.fingerprint, e)]

theorem lookup_indexed (r : TypeRegistry) (e : TypeEntry) (f : String) :
    (r.indexed e).lookup f = (r.entries ++ [e]).find? (·.fingerprint == f) := by
  have hlookup : r.byFingerprint.lookup f = r.entries.find? (·.fingerprint == f) := r.find?_eq f
  rw [List.find?_append, ← hlookup]
  unfold indexed
  split
  · -- an earlier entry stays the first of its fingerprint
    rename_i earlier hfound
    by_cases h : e.fingerprint = f
    · have hstays : r.byFingerprint.lookup f = some earlier := h ▸ hfound
      rw [hstays, Option.some_or]
    · rw [List.find?_cons_of_neg (by simpa using h), List.find?_nil, Option.or_none]
  · rw [List.lookup_append]
    by_cases h : e.fingerprint = f
    · rw [List.find?_cons_of_pos (by simpa using h), h, List.lookup_cons_self]
    · rw [List.find?_cons_of_neg (by simpa using h), List.lookup_cons,
        beq_false_of_ne (Ne.symm h)]
      rfl

/-- The registry with one entry more. -/
def insert (r : TypeRegistry) (e : TypeEntry) : TypeRegistry where
  shared := r.shared
  entries := r.entries ++ [e]
  byFingerprint := r.indexed e
  names := e.names ++ r.names
  lookup_byFingerprint := r.lookup_indexed e
  mem_names n := by
    rw [List.mem_append, r.mem_names, List.flatMap_append, List.mem_append]
    simp [or_comm]

/-- **Register a definition.** The answer is the name to refer to and
whether the definition is new. -/
def register (r : TypeRegistry) (name definition : String) :
    Except RegistryError ((String × Bool) × TypeRegistry) :=
  let entry := TypeEntry.of name definition
  match (if r.shared then r.find? entry.fingerprint else none) with
  | some earlier => .ok ((earlier.name, false), r)
  | none =>
    if name ∈ r.names then .error (.nameTaken name)
    else .ok ((name, true), r.insert entry)

end TypeRegistry

end TypedTraffic
