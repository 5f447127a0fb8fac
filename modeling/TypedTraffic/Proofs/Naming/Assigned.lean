import TypedTraffic.Naming.Table
import TypedTraffic.Proofs.Naming.Identifier

/-!
# The names that a table assigns

A table that starts empty stays in step with itself, whatever names are
given (`Table.Faithful.assign`): the names that are taken are those that
source names have (`Table.Faithful.mem_taken_iff`), and no two source
names have one name (`Table.Faithful.source_eq`).

So a table of field names that comes about by naming one field after the
other is a one-to-one correspondence, and a name can be read back to the
source name that holds it (`sourceOf?_fieldName`). All names in it are
identifiers (`Reachable.isIdentifier`), and so is the name of a field that
is not in it yet.
-/

namespace TypedTraffic.Naming

/-- An element is found by its name when no name is held twice. -/
theorem find?_eq_some_of_nodup {α : Type} {f : α → String} {xs : List α} (h : (xs.map f).Nodup)
    {x : α} (hx : x ∈ xs) : xs.find? (fun y => f y == f x) = some x := by
  induction xs with
  | nil => exact absurd hx List.not_mem_nil
  | cons y ys ih =>
    rw [List.map_cons, List.nodup_cons] at h
    rcases List.mem_cons.mp hx with rfl | hx
    · exact List.find?_cons_of_pos (by simp)
    · have hne : f y ≠ f x := fun heq => h.1 (heq ▸ List.mem_map_of_mem hx)
      rw [List.find?_cons_of_neg (by simpa using hne)]
      exact ih h.2 hx

namespace Table

variable {α : Type} [BEq α] [LawfulBEq α]

/-- A source name has the name it was given. -/
theorem find?_assign_self (t : Table α) (source : α) (base : String) :
    (t.assign source base).2.find? source = some (t.assign source base).1 := by
  unfold assign
  split
  · assumption
  · exact List.lookup_cons_self

/-- **A source name keeps its name.** -/
theorem find?_assign {t : Table α} {source : α} {name : String} (h : t.find? source = some name)
    (other : α) (base : String) : (t.assign other base).2.find? source = some name := by
  unfold assign
  split
  · exact h
  · rename_i hother
    have hne : source ≠ other := by
      rintro rfl
      rw [hother] at h
      cases h
    show List.lookup source ((other, _) :: t.entries) = some name
    rw [List.lookup_cons, beq_false_of_ne hne]
    exact h

/-- Other source names are left as they are. -/
theorem find?_assign_of_ne (t : Table α) {source other : α} (h : other ≠ source) (base : String) :
    (t.assign source base).2.find? other = t.find? other := by
  unfold assign
  split
  · rfl
  · rw [find?, find?, List.lookup_cons, beq_false_of_ne h]

omit [LawfulBEq α] in
/-- **A source name that is new** receives the first free name of its
series, which is then taken. -/
theorem assign_of_find?_eq_none {t : Table α} {source : α} (h : t.find? source = none)
    (base : String) : (t.assign source base).1 = firstFree "_" t.taken base
      ∧ (t.assign source base).2.taken = firstFree "_" t.taken base :: t.taken := by
  rw [assign, h]
  exact ⟨rfl, rfl⟩

/-- What is looked up in a table is an entry. -/
theorem mem_entries_of_find? {t : Table α} {source : α} {name : String}
    (h : t.find? source = some name) : (source, name) ∈ t.entries := by
  have hlookup : ∀ entries : List (α × String), entries.lookup source = some name →
      (source, name) ∈ entries := by
    intro entries
    induction entries with
    | nil => exact fun hnone => absurd hnone (by simp)
    | cons entry entries ih =>
      intro hentry
      rw [List.lookup_cons] at hentry
      split at hentry
      · rename_i heq
        rw [eq_of_beq heq, ← Option.some.inj hentry]
        exact List.mem_cons_self
      · exact List.mem_cons_of_mem _ (ih hentry)
  exact hlookup t.entries h

/-- **A table that is in step with itself**: what it says of source names
and what it says of taken names agree. -/
structure Faithful (t : Table α) : Prop where
  /-- No source name has two names. -/
  sources : (t.entries.map Prod.fst).Nodup
  /-- The names that are taken are those that were given. -/
  taken : t.taken = t.entries.map Prod.snd
  /-- No name is taken twice. -/
  nodup : t.taken.Nodup

omit [BEq α] [LawfulBEq α] in
theorem faithful_empty : (empty : Table α).Faithful := ⟨List.nodup_nil, rfl, List.nodup_nil⟩

namespace Faithful

variable {t : Table α} (h : t.Faithful)

include h

/-- **Giving a name** keeps a table in step with itself. -/
theorem assign (source : α) (base : String) : (t.assign source base).2.Faithful := by
  unfold Table.assign
  split
  · exact h
  · rename_i hnone
    have hnew : ∀ p ∈ t.entries, source ≠ p.1 := fun p hp => by
      simpa using List.lookup_eq_none_iff.mp hnone p hp
    refine ⟨List.nodup_cons.mpr ⟨fun hmem => ?_, h.sources⟩, congrArg (_ :: ·) h.taken,
      List.nodup_cons.mpr ⟨firstFree_not_mem _ _ _, h.nodup⟩⟩
    obtain ⟨p, hp, heq⟩ := List.mem_map.mp hmem
    exact hnew p hp heq.symm

theorem find?_eq_some_iff {source : α} {name : String} :
    t.find? source = some name ↔ (source, name) ∈ t.entries := by
  refine ⟨mem_entries_of_find?, fun hmem => ?_⟩
  cases hfind : t.find? source with
  | none =>
    have hne := List.lookup_eq_none_iff.mp hfind _ hmem
    exact absurd hne (by simp)
  | some other =>
    have heq := List.inj_on_of_nodup_map h.sources (mem_entries_of_find? hfind) hmem rfl
    exact congrArg some (Prod.mk.inj heq).2

/-- **The names that are taken** are those that source names have. -/
theorem mem_taken_iff {name : String} :
    name ∈ t.taken ↔ ∃ source, t.find? source = some name := by
  rw [h.taken, List.mem_map]
  constructor
  · rintro ⟨p, hp, rfl⟩
    exact ⟨p.1, h.find?_eq_some_iff.mpr hp⟩
  · rintro ⟨source, hfind⟩
    exact ⟨(source, name), mem_entries_of_find? hfind, rfl⟩

/-- **No two source names have one name.** -/
theorem source_eq {source source' : α} {name : String} (hfind : t.find? source = some name)
    (hfind' : t.find? source' = some name) : source = source' := by
  have hnodup : (t.entries.map Prod.snd).Nodup := h.taken ▸ h.nodup
  have heq := List.inj_on_of_nodup_map hnodup (mem_entries_of_find? hfind)
    (mem_entries_of_find? hfind') rfl
  exact (Prod.mk.inj heq).1

end Faithful

end Table

namespace FieldNames

/-- **Tables that come about by naming fields**, one after the other. -/
inductive Reachable : FieldNames → Prop
  /-- Nothing has a name yet. -/
  | empty : Reachable Table.empty
  /-- A field is named. -/
  | named {names : FieldNames} (source : SourceName) :
    Reachable names → Reachable (names.nameField source).2

/-- The source name that holds a name. -/
def sourceOf? (names : FieldNames) (name : String) : Option SourceName :=
  (names.entries.find? fun entry => entry.2 == name).map Prod.fst

theorem taken_nameField (names : FieldNames) (source : SourceName) :
    (names.nameField source).2.taken = names.taken
      ∨ (names.nameField source).2.taken
          = firstFree "_" names.taken (fieldBase source) :: names.taken := by
  unfold nameField Table.assign
  split
  · exact Or.inl rfl
  · exact Or.inr rfl

theorem Reachable.faithful {names : FieldNames} (h : names.Reachable) : names.Faithful := by
  induction h with
  | empty => exact Table.faithful_empty
  | named source _ ih => exact ih.assign source _

/-- **The names of fields are identifiers.** -/
theorem Reachable.isIdentifier {names : FieldNames} (h : names.Reachable) :
    ∀ name ∈ names.taken, isIdentifier name = true := by
  induction h with
  | empty => exact fun name hname => absurd hname List.not_mem_nil
  | @named names source _ ih =>
    intro name hname
    rcases taken_nameField names source with heq | heq
    · rw [heq] at hname
      exact ih name hname
    · rw [heq] at hname
      rcases List.mem_cons.mp hname with rfl | hname
      · exact isIdentifier_firstFree _ (isIdentifier_fieldBase source)
      · exact ih name hname

theorem Reachable.nameFields {names : FieldNames} (h : names.Reachable)
    (sources : List SourceName) : (names.nameFields sources).Reachable := by
  induction sources generalizing names with
  | nil => exact h
  | cons source sources ih => exact ih (h.named source)

theorem Reachable.mem_taken_of_find? {names : FieldNames} (h : names.Reachable)
    {source : SourceName} {name : String} (hfind : names.find? source = some name) :
    name ∈ names.taken :=
  h.faithful.mem_taken_iff.mpr ⟨source, hfind⟩

/-- The name of a field, whether it is in the table or not, is an
identifier. -/
theorem Reachable.isIdentifier_fieldName {names : FieldNames} (h : names.Reachable)
    (source : SourceName) : Naming.isIdentifier (names.fieldName source) = true := by
  unfold fieldName
  cases hfind : names.find? source with
  | none => exact isIdentifier_fieldBase source
  | some name => exact h.isIdentifier name (h.mem_taken_of_find? hfind)

theorem find?_nameFields {names : FieldNames} {source : SourceName} {name : String}
    (h : names.find? source = some name) (sources : List SourceName) :
    (names.nameFields sources).find? source = some name := by
  induction sources generalizing names with
  | nil => exact h
  | cons other sources ih => exact ih (Table.find?_assign h other _)

/-- Fields that are named have a name. -/
theorem exists_find?_nameFields (names : FieldNames) {source : SourceName}
    {sources : List SourceName} (h : source ∈ sources) :
    ∃ name, (names.nameFields sources).find? source = some name := by
  induction sources generalizing names with
  | nil => exact absurd h List.not_mem_nil
  | cons other sources ih =>
    rcases List.mem_cons.mp h with rfl | h
    · exact ⟨_, find?_nameFields (Table.find?_assign_self names source _) sources⟩
    · exact ih (names.nameField other).2 h

theorem nameFields_append (names : FieldNames) (sources more : List SourceName) :
    names.nameFields (sources ++ more) = (names.nameFields sources).nameFields more :=
  List.foldl_append

/-- A source name that has a name is not named again. -/
theorem nameField_of_find? {names : FieldNames} {source : SourceName} {name : String}
    (h : names.find? source = some name) : names.nameField source = (name, names) := by
  rw [nameField, Table.assign, h]

/-- Source names that have names are not named again. -/
theorem nameFields_eq_self {names : FieldNames} {sources : List SourceName}
    (h : ∀ source ∈ sources, ∃ name, names.find? source = some name) :
    names.nameFields sources = names := by
  induction sources with
  | nil => rfl
  | cons source sources ih =>
    obtain ⟨name, hname⟩ := h source List.mem_cons_self
    rw [nameFields, List.foldl_cons, nameField_of_find? hname]
    exact ih fun other hother => h other (List.mem_cons_of_mem _ hother)

/-- **Naming the same fields twice** is naming them once. -/
theorem nameFields_nameFields (names : FieldNames) (sources : List SourceName) :
    (names.nameFields sources).nameFields sources = names.nameFields sources :=
  nameFields_eq_self fun _ h => exists_find?_nameFields names h

/-- The name a field is given is its name from then on. -/
theorem nameField_eq_fieldName (names : FieldNames) (source : SourceName)
    (more : List SourceName) :
    (names.nameField source).1 = (names.nameFields (source :: more)).fieldName source := by
  rw [fieldName, nameFields, List.foldl_cons]
  have hname := find?_nameFields (Table.find?_assign_self names source (fieldBase source)) more
  exact (congrArg (Option.getD · _) hname).symm

/-- A name is read back to the source name that holds it. -/
theorem Reachable.sourceOf?_eq {names : FieldNames} (h : names.Reachable) {source : SourceName}
    {name : String} (hmem : (source, name) ∈ names.entries) :
    names.sourceOf? name = some source := by
  have hnodup : (names.entries.map Prod.snd).Nodup := h.faithful.taken ▸ h.faithful.nodup
  rw [sourceOf?, find?_eq_some_of_nodup hnodup hmem]
  rfl

/-- **Field names are read back to their source names.** -/
theorem Reachable.sourceOf?_fieldName {names : FieldNames} (h : names.Reachable)
    {source : SourceName} {sources : List SourceName} (hs : source ∈ sources) :
    (names.nameFields sources).sourceOf? ((names.nameFields sources).fieldName source)
      = some source := by
  obtain ⟨name, hname⟩ := exists_find?_nameFields names hs
  have hfield : (names.nameFields sources).fieldName source = name := by
    rw [fieldName, hname, Option.getD_some]
  rw [hfield]
  exact (h.nameFields sources).sourceOf?_eq (Table.mem_entries_of_find? hname)

end FieldNames

end TypedTraffic.Naming
