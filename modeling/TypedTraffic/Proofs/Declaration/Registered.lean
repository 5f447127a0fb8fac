import TypedTraffic.Declaration.Registry
import TypedTraffic.Proofs.Naming.Fresh

/-!
# What a registry has registered

A registry is used step by step: a name is asked for, a definition is
registered, or everything is forgotten. The **transcript** of some steps
has each step with its answer, and what is **registered** after it can be
read off: the definitions that were answered as new since everything was
last forgotten.

This list is all there is to a registry (`behavesAs_after`). The entries
are made from it one by one, with names and – when definitions are shared
– fingerprints kept apart, and how any step is answered next follows from
the list alone: which definitions are shared, which names are refused and
which name is free for a stem.
-/

namespace TypedTraffic.TypeRegistry

open Naming Canonical

/-! ## Steps -/

/-- **A step on a registry.** -/
inductive Step where
  /-- A free name is asked for. -/
  | available (stem : String)
  /-- A definition is registered under a name. -/
  | register (name definition : String)
  /-- Everything is forgotten. -/
  | clear

/-- **The answer to a step.** -/
inductive Answer where
  /-- The name is free. -/
  | free (name : String)
  /-- The definition goes by the name, and is new or not. -/
  | registered (name : String) (isNew : Bool)
  /-- The definition is refused. -/
  | refused (e : RegistryError)
  /-- Everything is forgotten. -/
  | cleared

/-- **One step**, with its answer and the registry after it. A definition
that is refused leaves the registry as it is. -/
def step (r : TypeRegistry) : Step → Answer × TypeRegistry
  | .available stem => (.free (r.available stem), r)
  | .register name definition =>
    match r.register name definition with
    | .ok ((name, isNew), r) => (.registered name isNew, r)
    | .error e => (.refused e, r)
  | .clear => (.cleared, r.cleared)

/-- The registry after several steps. -/
def after (r : TypeRegistry) (steps : List Step) : TypeRegistry :=
  steps.foldl (fun r s => (r.step s).2) r

/-- **The transcript of several steps**: each with its answer. -/
def transcript : TypeRegistry → List Step → List (Step × Answer)
  | _, [] => []
  | r, s :: ss => (s, (r.step s).1) :: transcript (r.step s).2 ss

/-- A name and the definition registered under it. -/
abbrev Registered := String × String

/-- What is registered after one step more. -/
def recorded (done : List Registered) : Step × Answer → List Registered
  | (.register name definition, .registered _ true) => done ++ [(name, definition)]
  | (.clear, _) => []
  | _ => done

/-- **What is registered after a transcript**: the definitions answered as
new since everything was last forgotten, in order. -/
def registeredIn (transcript : List (Step × Answer)) : List Registered :=
  transcript.foldl recorded []

/-- A name is occupied: something is registered under it or declares it. -/
def Occupied (done : List Registered) (n : String) : Prop :=
  ∃ p ∈ done, n = p.1 ∨ n ∈ declaredNames p.2

/-- A definition is shared: one of its fingerprint is registered. -/
def Known (done : List Registered) (definition : String) : Prop :=
  ∃ p ∈ done, fingerprint p.2 = fingerprint definition

/-! ## One registration -/

/-- The entry that a definition is shared with. -/
def sharedWith? (r : TypeRegistry) (definition : String) : Option TypeEntry :=
  if r.shared then r.find? (fingerprint definition) else none

theorem register_eq (r : TypeRegistry) (name definition : String) :
    r.register name definition =
      match r.sharedWith? definition with
      | some e => .ok ((e.name, false), r)
      | none =>
        if name ∈ r.names then .error (.nameTaken name)
        else .ok ((name, true), r.insert (.of name definition)) := rfl

theorem register_of_shared {r : TypeRegistry} {definition : String} {e : TypeEntry}
    (h : r.sharedWith? definition = some e) (name : String) :
    r.register name definition = .ok ((e.name, false), r) := by
  rw [register_eq, h]

theorem register_of_taken {r : TypeRegistry} {name definition : String}
    (h : r.sharedWith? definition = none) (hname : name ∈ r.names) :
    r.register name definition = .error (.nameTaken name) := by
  rw [register_eq, h]
  exact if_pos hname

theorem register_of_free {r : TypeRegistry} {name definition : String}
    (h : r.sharedWith? definition = none) (hname : name ∉ r.names) :
    r.register name definition = .ok ((name, true), r.insert (.of name definition)) := by
  rw [register_eq, h]
  exact if_neg hname

theorem step_register (r : TypeRegistry) (name definition : String) :
    r.step (.register name definition) =
      match r.register name definition with
      | .ok ((name, isNew), r) => (.registered name isNew, r)
      | .error e => (.refused e, r) := rfl

/-- **The name that is free for a stem** is not occupied. -/
theorem available_not_mem_names (r : TypeRegistry) (stem : String) :
    r.available stem ∉ r.names :=
  firstFree_not_mem "" r.names stem

/-- **What is registered under a name that is free** is not refused. -/
theorem registers_available (r : TypeRegistry) (stem definition : String) : ∃ name isNew,
    (r.step (.register (r.available stem) definition)).1 = .registered name isNew := by
  rw [step_register]
  cases hshared : r.sharedWith? definition with
  | some e =>
    rw [register_of_shared hshared]
    exact ⟨_, _, rfl⟩
  | none =>
    rw [register_of_free hshared (r.available_not_mem_names stem)]
    exact ⟨_, _, rfl⟩

/-- Whether definitions are shared stays as it is. -/
theorem shared_step (r : TypeRegistry) (s : Step) : (r.step s).2.shared = r.shared := by
  cases s with
  | available stem => rfl
  | clear => rfl
  | register name definition =>
    rw [step_register, register_eq]
    cases r.sharedWith? definition with
    | some e => rfl
    | none =>
      by_cases hname : name ∈ r.names
      · simp only [if_pos hname]
      · simp only [if_neg hname]
        rfl

theorem shared_after (r : TypeRegistry) (steps : List Step) :
    (r.after steps).shared = r.shared := by
  induction steps generalizing r with
  | nil => rfl
  | cons s ss ih => exact (ih _).trans (r.shared_step s)

/-! ## The invariant -/

/-- **A registry that records** some registrations. -/
structure Records (r : TypeRegistry) (done : List Registered) : Prop where
  /-- The entries are those of the registrations, in order. -/
  entries : r.entries = done.map fun p => TypeEntry.of p.1 p.2
  /-- No two are under one name. -/
  nodup : (done.map Prod.fst).Nodup
  /-- If definitions are shared, no two have one fingerprint. -/
  apart : r.shared = true → (done.map fun p => fingerprint p.2).Nodup

theorem records_empty (shared : Bool) : (empty shared).Records [] :=
  ⟨rfl, List.nodup_nil, fun _ => List.nodup_nil⟩

namespace Records

variable {r : TypeRegistry} {done : List Registered} (h : r.Records done)

include h

theorem mem_names (n : String) : n ∈ r.names ↔ Occupied done n := by
  rw [r.mem_names, h.entries, List.flatMap_map, List.mem_flatMap]
  simp only [TypeEntry.names, TypeEntry.of, List.mem_cons, Occupied]

/-- The index leads to the earliest registration of a fingerprint. -/
theorem find?_eq (f : String) :
    r.find? f = (done.find? (fingerprint ·.2 == f)).map fun p => .of p.1 p.2 := by
  rw [r.find?_eq, h.entries, List.find?_map]
  rfl

theorem sharedWith?_eq_none {definition : String} :
    r.sharedWith? definition = none ↔ ¬ (r.shared = true ∧ Known done definition) := by
  unfold sharedWith? Known
  cases r.shared with
  | false => simp
  | true =>
    rw [if_pos rfl, h.find?_eq, Option.map_eq_none_iff, List.find?_eq_none]
    simp

/-- **A new registration** goes behind the others. -/
theorem insert {name definition : String} (hnew : r.sharedWith? definition = none)
    (hname : name ∉ r.names) :
    (r.insert (.of name definition)).Records (done ++ [(name, definition)]) := by
  refine ⟨?_, ?_, fun hshared => ?_⟩
  · show r.entries ++ [_] = _
    rw [h.entries, List.map_append]
    rfl
  · rw [List.map_append]
    refine h.nodup.append (List.nodup_singleton name) (List.disjoint_singleton.mpr fun hmem => ?_)
    obtain ⟨p, hp, hpname⟩ := List.mem_map.mp hmem
    exact hname ((h.mem_names name).mpr ⟨p, hp, Or.inl hpname.symm⟩)
  · rw [List.map_append]
    refine (h.apart hshared).append (List.nodup_singleton _)
      (List.disjoint_singleton.mpr fun hmem => ?_)
    obtain ⟨p, hp, hpeq⟩ := List.mem_map.mp hmem
    exact h.sharedWith?_eq_none.mp hnew ⟨hshared, p, hp, hpeq⟩

/-- **One step** is recorded. -/
theorem step (s : Step) : (r.step s).2.Records (recorded done (s, (r.step s).1)) := by
  cases s with
  | available stem => exact h
  | clear => exact records_empty r.shared
  | register name definition =>
    rw [step_register]
    cases hshared : r.sharedWith? definition with
    | some e =>
      rw [register_of_shared hshared]
      exact h
    | none =>
      by_cases hname : name ∈ r.names
      · rw [register_of_taken hshared hname]
        exact h
      · rw [register_of_free hshared hname]
        exact h.insert hshared hname

/-- **Several steps** are recorded. -/
theorem after (steps : List Step) :
    (r.after steps).Records ((r.transcript steps).foldl recorded done) := by
  induction steps generalizing r done with
  | nil => exact h
  | cons s ss ih => exact ih (h.step s)

end Records

/-! ## What the list says of the next step -/

/-- **A registry that behaves as a list of registrations.** -/
structure BehavesAs (r : TypeRegistry) (done : List Registered) : Prop
    extends r.Records done where
  /-- The names are those that something is registered under or declares. -/
  names : ∀ n, n ∈ r.names ↔ Occupied done n
  /-- Under a fingerprint is the earliest registration that has it. -/
  earliest : ∀ f, r.find? f = (done.find? (fingerprint ·.2 == f)).map fun p => .of p.1 p.2
  /-- A definition that is shared goes by the name of the earliest
  registration of its fingerprint, and nothing is changed. -/
  shared : ∀ name definition, r.shared = true → Known done definition →
    ∃ before p behind, done = before ++ p :: behind
      ∧ fingerprint p.2 = fingerprint definition ∧ ¬ Known before definition
      ∧ r.step (.register name definition) = (.registered p.1 false, r)
  /-- A definition is refused exactly if it is not shared and its name is
  occupied, and nothing is changed then. -/
  refused : ∀ name definition,
    (¬ (r.shared = true ∧ Known done definition) ∧ Occupied done name
      ↔ ∃ e, (r.step (.register name definition)).1 = .refused e)
    ∧ ∀ e, (r.step (.register name definition)).1 = .refused e →
        e = .nameTaken name ∧ (r.step (.register name definition)).2 = r
  /-- All others are new. -/
  new : ∀ name definition, ¬ (r.shared = true ∧ Known done definition) → ¬ Occupied done name →
    (r.step (.register name definition)).1 = .registered name true
  /-- The name for a stem is the stem, or the stem with the least positive
  number behind it, that is not occupied. -/
  available : ∀ stem,
    ¬ Occupied done stem ∧ r.step (.available stem) = (.free stem, r)
    ∨ Occupied done stem ∧ ∃ k, 0 < k ∧ r.step (.available stem) = (.free (stem ++ toString k), r)
      ∧ ¬ Occupied done (stem ++ toString k)
      ∧ ∀ j, 0 < j → j < k → Occupied done (stem ++ toString j)
  /-- What is registered under the name for a stem is not refused. -/
  registers : ∀ stem definition, ∃ name isNew,
    (r.step (.register (r.available stem) definition)).1 = .registered name isNew

namespace Records

variable {r : TypeRegistry} {done : List Registered} (h : r.Records done)

include h

theorem step_of_known {definition : String} (hshared : r.shared = true)
    (hknown : Known done definition) (name : String) :
    ∃ before p behind, done = before ++ p :: behind
      ∧ fingerprint p.2 = fingerprint definition ∧ ¬ Known before definition
      ∧ r.step (.register name definition) = (.registered p.1 false, r) := by
  obtain ⟨q, hq, hqeq⟩ := hknown
  have hsome : (done.find? (fingerprint ·.2 == fingerprint definition)).isSome = true :=
    List.find?_isSome.mpr ⟨q, hq, by simpa using hqeq⟩
  obtain ⟨p, hp⟩ := Option.isSome_iff_exists.mp hsome
  have hwith : r.sharedWith? definition = some (.of p.1 p.2) := by
    rw [sharedWith?, if_pos hshared, h.find?_eq, hp]
    rfl
  obtain ⟨hpeq, before, behind, hdone, hbefore⟩ := List.find?_eq_some_iff_append.mp hp
  refine ⟨before, p, behind, hdone, by simpa using hpeq, ?_, ?_⟩
  · rintro ⟨e, he, heeq⟩
    exact absurd (hbefore e he) (by simpa using heeq)
  · rw [step_register, register_of_shared hwith]
    rfl

theorem refused_iff (name definition : String) :
    (¬ (r.shared = true ∧ Known done definition) ∧ Occupied done name
      ↔ ∃ e, (r.step (.register name definition)).1 = .refused e)
    ∧ ∀ e, (r.step (.register name definition)).1 = .refused e →
        e = .nameTaken name ∧ (r.step (.register name definition)).2 = r := by
  rw [← h.sharedWith?_eq_none, ← h.mem_names, step_register]
  cases hshared : r.sharedWith? definition with
  | some e =>
    rw [register_of_shared hshared]
    simp
  | none =>
    by_cases hname : name ∈ r.names
    · rw [register_of_taken hshared hname]
      simp [hname, eq_comm]
    · rw [register_of_free hshared hname]
      simp [hname]

theorem step_of_new {name definition : String}
    (hnew : ¬ (r.shared = true ∧ Known done definition)) (hname : ¬ Occupied done name) :
    (r.step (.register name definition)).1 = .registered name true := by
  rw [step_register,
    register_of_free (h.sharedWith?_eq_none.mpr hnew) fun hmem => hname ((h.mem_names _).mp hmem)]

theorem available_cases (stem : String) :
    ¬ Occupied done stem ∧ r.step (.available stem) = (.free stem, r)
    ∨ Occupied done stem ∧ ∃ k, 0 < k ∧ r.step (.available stem) = (.free (stem ++ toString k), r)
      ∧ ¬ Occupied done (stem ++ toString k)
      ∧ ∀ j, 0 < j → j < k → Occupied done (stem ++ toString j) := by
  have hcases := firstFree_cases "" r.names stem
  simp only [String.append_empty, h.mem_names] at hcases
  refine hcases.imp (fun ⟨hfree, heq⟩ => ⟨hfree, ?_⟩)
    fun ⟨htaken, k, hpos, heq, hfree, hleast⟩ => ⟨htaken, k, hpos, ?_, hfree, hleast⟩
  · rw [TypeRegistry.step, available, heq]
  · rw [TypeRegistry.step, available, heq]

end Records

/-- **A registry behaves as the list of what its transcript registers**,
whatever the steps. -/
theorem behavesAs_after (shared : Bool) (steps : List Step) :
    ((empty shared).after steps).shared = shared
      ∧ ((empty shared).after steps).BehavesAs (registeredIn ((empty shared).transcript steps)) := by
  have h : ((empty shared).after steps).Records _ := (records_empty shared).after steps
  exact ⟨shared_after _ _, h, h.mem_names, h.find?_eq,
    fun name _ hshared hknown => h.step_of_known hshared hknown name, h.refused_iff,
    fun _ _ => h.step_of_new, h.available_cases,
    registers_available _⟩

end TypedTraffic.TypeRegistry
