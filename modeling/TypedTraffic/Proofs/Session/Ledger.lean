import TypedTraffic.Proofs.Declaration.Registered
import TypedTraffic.Proofs.Sample.Reading

/-!
# The ledger of a run

What is registered next in a session depends on the names of fields and
on the registry of definitions alone; this part of the state is its
**ledger**. A run over a capture is a sequence of **registrations**: each
takes a free name, leads to a definition, and is answered with an entry
that is there already or makes a new one (`Ledger.after`). A free name is
free, so no registration is refused (`register_eq`).

The invariant of a run says that every entry comes from a definition that
is rooted in the name of the entry, and that no entry has a name that an
earlier one has or declares (`Sound.after`, `Sound.run`). Every entry can
be traced back to the registration that made it (`exists_registration`).
-/

namespace TypedTraffic

open Naming Text Canonical

/-- **A registration**: where a definition comes from. -/
inductive Registration where
  /-- The keys of the query parameters of an endpoint. -/
  | params (stem : String) (keys : List String)
  /-- The body of a request or a response. -/
  | body (stem text : String) (mime : Option String)
  deriving DecidableEq

/-- What the name of a registration is made from. -/
def Registration.stem : Registration → String
  | .params stem _ => stem
  | .body stem _ _ => stem

/-- **What is read for a registration**, whatever its stem is. -/
def Registration.reading : Registration → Reading
  | .params _ keys => .query keys
  | .body _ text mime => Sample.read (.text text) mime

/-- **The ledger of a session.** -/
structure Ledger where
  /-- The names of fields. -/
  names : FieldNames
  /-- The definitions. -/
  types : TypeRegistry

namespace Ledger

/-- The ledger at the start of a run. -/
def start (options : Options) : Ledger := ⟨Table.empty, TypeRegistry.empty options.mergeTypes⟩

/-- The name that is free for a registration. -/
def candidate (l : Ledger) : Registration → String
  | .params stem _ => l.types.available stem
  | .body stem _ _ =>
    l.types.available (if l.types.size = 0 then stem else stem ++ toString l.types.size)

/-- **The definition of a registration**, with the names of fields after
it. -/
def define (l : Ledger) (r : Registration) : Definition × FieldNames :=
  match r with
  | .params _ keys =>
    let (fields, names) := Session.paramFields l.names keys
    (.interfaces ⟨l.candidate r, fields⟩ [], names)
  | .body _ text mime =>
    let inference := Sample.infer (l.candidate r) (.text text) mime l.names
    (inference.definition, inference.names)

/-- The definition of a registration. -/
def definition (l : Ledger) (r : Registration) : Definition := (l.define r).1

/-- The entry a registration makes, unless its definition is shared. -/
def entry (l : Ledger) (r : Registration) : TypeEntry :=
  TypeEntry.of (l.candidate r) (l.definition r).text

/-- **The entry that is there already** for the definition of a
registration. -/
def existing? (l : Ledger) (r : Registration) : Option TypeEntry :=
  if l.types.shared then l.types.find? (fingerprint (l.definition r).text) else none

/-- **The answer to a registration**: the name to refer to. -/
def answer (l : Ledger) (r : Registration) : String :=
  match l.existing? r with
  | some e => e.name
  | none => l.candidate r

/-- **The ledger after a registration.** -/
def after (l : Ledger) (r : Registration) : Ledger where
  names := (l.define r).2
  types :=
    match l.existing? r with
    | some _ => l.types
    | none => l.types.insert (l.entry r)

/-- **The ledger after several registrations**, one after the other. -/
def run (l : Ledger) (rs : List Registration) : Ledger := rs.foldl after l

/-- The last answer to several registrations, written in some way, or what
there is before any. -/
def lastAnswer (wrap : String → String) : Ledger → String → List Registration → String
  | _, type, [] => type
  | l, _, r :: rs => lastAnswer wrap (l.after r) (wrap (l.answer r)) rs

theorem run_append (l : Ledger) (rs rs' : List Registration) :
    l.run (rs ++ rs') = (l.run rs).run rs' := List.foldl_append

theorem lastAnswer_append (wrap : String → String) (l : Ledger) (type : String)
    (rs rs' : List Registration) :
    lastAnswer wrap l type (rs ++ rs')
      = lastAnswer wrap (l.run rs) (lastAnswer wrap l type rs) rs' := by
  induction rs generalizing l type with
  | nil => rfl
  | cons r rs ih => exact ih (l.after r) (wrap (l.answer r))

/-! ## What one registration does -/

/-- **A registration leads to its reading**, under the name that is free. -/
theorem define_eq (l : Ledger) (r : Registration) :
    l.define r = (r.reading.definition (l.candidate r) (l.names.nameFields r.reading.keys).fieldName,
      l.names.nameFields r.reading.keys) := by
  cases r with
  | params stem keys =>
    rw [define, Session.paramFields_eq]
    rfl
  | body stem text mime =>
    obtain ⟨hnames, hdefinition⟩ :=
      Sample.reads_infer (l.candidate (.body stem text mime)) l.names (.text text) mime
    rw [hnames] at hdefinition
    exact Prod.ext hdefinition hnames

/-- A registration names the keys of its reading. -/
theorem after_names (l : Ledger) (r : Registration) :
    (l.after r).names = l.names.nameFields r.reading.keys := congrArg Prod.snd (l.define_eq r)

/-- The definition of a registration is that of its reading, in the names
of fields after it. -/
theorem definition_eq (l : Ledger) (r : Registration) :
    l.definition r = r.reading.definition (l.candidate r) (l.after r).names.fieldName := by
  rw [definition, define_eq, after_names]

/-- **The name of a registration is free.** -/
theorem candidate_not_mem_taken (l : Ledger) (r : Registration) :
    l.candidate r ∉ l.types.taken := by
  rw [← l.types.mem_names_iff]
  cases r with
  | params stem keys => exact l.types.available_not_mem_names _
  | body stem text mime => exact l.types.available_not_mem_names _

/-- The name of a registration is its stem with digits behind it. -/
theorem candidate_eq (l : Ledger) (r : Registration) :
    ∃ tail : String, l.candidate r = r.stem ++ tail ∧ ∀ c ∈ tail.toList, c.isDigit = true := by
  have hfree : ∀ base : String, ∃ tail : String, l.types.available base = base ++ tail
      ∧ ∀ c ∈ tail.toList, c.isDigit = true := by
    intro base
    obtain ⟨tail, htail, hdigits⟩ := firstFree_eq_append "" l.types.names base
    exact ⟨tail, htail, fun c hc => (hdigits c hc).resolve_left (by simp)⟩
  cases r with
  | params stem keys => exact hfree stem
  | body stem text mime =>
    show ∃ tail : String, l.types.available
        (if l.types.size = 0 then stem else stem ++ toString l.types.size) = stem ++ tail ∧ _
    split
    · exact hfree stem
    · obtain ⟨tail, htail, hdigits⟩ := hfree (stem ++ toString l.types.size)
      refine ⟨toString l.types.size ++ tail, by rw [htail, String.append_assoc], fun c hc => ?_⟩
      rw [String.toList_append, List.mem_append, toList_toString] at hc
      exact hc.elim (Nat.isDigit_of_mem_toDigits (by decide) (by decide)) (hdigits c)

/-- **No registration is refused.** -/
theorem register_eq (l : Ledger) (r : Registration) :
    l.types.register (l.candidate r) (l.definition r).text
      = .ok ((l.answer r, (l.existing? r).isNone), (l.after r).types) := by
  have hmatch : (if l.types.shared then l.types.find? (TypeEntry.of (l.candidate r)
      (l.definition r).text).fingerprint else none) = l.existing? r := rfl
  have hfree : l.candidate r ∉ l.types.names :=
    fun h => l.candidate_not_mem_taken r ((l.types.mem_names_iff _).mp h)
  unfold TypeRegistry.register
  simp only [hmatch, if_neg hfree]
  unfold answer after
  cases l.existing? r <;> rfl

theorem after_of_existing {l : Ledger} {r : Registration} {e : TypeEntry}
    (h : l.existing? r = some e) : (l.after r).types = l.types ∧ l.answer r = e.name := by
  unfold after answer
  rw [h]
  exact ⟨rfl, rfl⟩

theorem after_of_new {l : Ledger} {r : Registration} (h : l.existing? r = none) :
    (l.after r).types = l.types.insert (l.entry r) ∧ l.answer r = l.candidate r := by
  unfold after answer
  rw [h]
  exact ⟨rfl, rfl⟩

/-- What is there already is an entry with the fingerprint of the
definition. -/
theorem mem_of_existing {l : Ledger} {r : Registration} {e : TypeEntry}
    (h : l.existing? r = some e) :
    e ∈ l.types.entries ∧ e.fingerprint = fingerprint (l.definition r).text := by
  unfold existing? at h
  split at h
  · rw [TypeRegistry.find?_eq] at h
    exact ⟨List.mem_of_find?_eq_some h, by simpa using List.find?_some h⟩
  · cases h

/-- **A definition that is not new** is answered with an entry that is there
already. -/
theorem exists_existing_eq {l : Ledger} {r : Registration} {existing : String}
    {types : TypeRegistry}
    (h : l.types.register (l.candidate r) (l.definition r).text = .ok ((existing, false), types)) :
    ∃ e, l.existing? r = some e ∧ e.name = existing := by
  rw [register_eq] at h
  cases hexisting : l.existing? r with
  | some e =>
    obtain ⟨htypes, hanswer⟩ := after_of_existing hexisting
    rw [hexisting, htypes, hanswer] at h
    cases h
    exact ⟨e, rfl, rfl⟩
  | none =>
    rw [hexisting] at h
    cases h

/-- Entries stay. -/
theorem prefix_after (l : Ledger) (r : Registration) :
    l.types.entries <+: (l.after r).types.entries := by
  cases h : l.existing? r with
  | some e =>
    refine ⟨[], ?_⟩
    rw [(after_of_existing h).1, List.append_nil]
  | none =>
    rw [(after_of_new h).1]
    exact List.prefix_append _ _

theorem prefix_run (l : Ledger) (rs : List Registration) :
    l.types.entries <+: (l.run rs).types.entries := by
  induction rs generalizing l with
  | nil => exact List.prefix_rfl
  | cons r rs ih => exact (l.prefix_after r).trans (ih (l.after r))

/-- The names of entries stay. -/
theorem mem_names_run_append {l : Ledger} {rs : List Registration} {n : String}
    (h : n ∈ (l.run rs).types.entries.map TypeEntry.name) (more : List Registration) :
    n ∈ (l.run (rs ++ more)).types.entries.map TypeEntry.name := by
  rw [run_append]
  exact ((prefix_run _ more).map TypeEntry.name).subset h

/-- **The answer to a registration is the name of an entry** with the
fingerprint of the definition. -/
theorem exists_entry_answer (l : Ledger) (r : Registration) :
    ∃ e ∈ (l.after r).types.entries, e.name = l.answer r
      ∧ e.fingerprint = fingerprint (l.definition r).text := by
  cases h : l.existing? r with
  | some e =>
    obtain ⟨htypes, hanswer⟩ := after_of_existing h
    obtain ⟨he, hfingerprint⟩ := mem_of_existing h
    exact ⟨e, by rw [htypes]; exact he, hanswer.symm, hfingerprint⟩
  | none =>
    obtain ⟨htypes, hanswer⟩ := after_of_new h
    refine ⟨l.entry r, ?_, hanswer.symm, rfl⟩
    rw [htypes]
    exact List.mem_append_right _ List.mem_cons_self

/-- **The last answer is the name of an entry**, if there is any. -/
theorem lastAnswer_eq (wrap : String → String) (l : Ledger) (type : String)
    (rs : List Registration) :
    lastAnswer wrap l type rs = type
      ∨ ∃ n ∈ (l.run rs).types.entries.map TypeEntry.name, lastAnswer wrap l type rs = wrap n := by
  induction rs generalizing l type with
  | nil => exact Or.inl rfl
  | cons r rs ih =>
    refine Or.inr ?_
    rcases ih (l.after r) (wrap (l.answer r)) with h | h
    · obtain ⟨e, he, hname, -⟩ := l.exists_entry_answer r
      refine ⟨l.answer r, List.mem_map.mpr ⟨e, ?_, hname⟩, h⟩
      exact ((l.after r).prefix_run rs).subset he
    · exact h

/-- **A new entry has a name of its own**, which no earlier one has or
declares. -/
theorem fresh_after (l : Ledger) (r : Registration)
    (h : l.types.entries.Pairwise fun earlier later => later.name ∉ earlier.names) :
    (l.after r).types.entries.Pairwise fun earlier later => later.name ∉ earlier.names := by
  cases hexisting : l.existing? r with
  | some e =>
    rw [(after_of_existing hexisting).1]
    exact h
  | none =>
    rw [(after_of_new hexisting).1]
    refine List.pairwise_append.mpr ⟨h, List.pairwise_singleton _ _, ?_⟩
    intro earlier hearlier later hlater hmem
    rw [List.mem_singleton.mp hlater] at hmem
    exact l.candidate_not_mem_taken r (List.mem_flatMap.mpr ⟨earlier, hearlier, hmem⟩)

theorem fresh_run (l : Ledger) (rs : List Registration)
    (h : l.types.entries.Pairwise fun earlier later => later.name ∉ earlier.names) :
    (l.run rs).types.entries.Pairwise fun earlier later => later.name ∉ earlier.names := by
  induction rs generalizing l with
  | nil => exact h
  | cons r rs ih => exact ih (l.after r) (l.fresh_after r h)

/-- Entries of which none has a name of an earlier one have different
names. -/
theorem nodup_of_fresh {entries : List TypeEntry}
    (h : entries.Pairwise fun earlier later => later.name ∉ earlier.names) :
    (entries.map TypeEntry.name).Nodup := by
  rw [List.Nodup, List.pairwise_map]
  refine h.imp ?_
  intro earlier later hnot heq
  exact hnot (List.mem_cons.mpr (Or.inl heq.symm))

/-! ## The invariant of a run -/

/-- **What a registration leads to is rooted in its name.** -/
theorem define_spec {l : Ledger} (h : l.names.Reachable) (r : Registration) :
    (l.define r).2.Reachable ∧ (l.definition r).Rooted (l.candidate r) := by
  have hreach := h.nameFields r.reading.keys
  rw [definition, define_eq]
  exact ⟨hreach, Reading.rooted_definition hreach.isIdentifier_fieldName _ _⟩

/-- A name with `lead` in front of a type name. -/
def IsLed (lead : List Token) (n : String) : Prop := ∃ core, IsTypeName core ∧ n = led lead core

/-- **An entry that comes from a definition** rooted in its name. -/
structure Rooted (lead : List Token) (e : TypeEntry) (d : Definition) : Prop where
  /-- The definition is rooted in the name of the entry. -/
  rooted : d.Rooted e.name
  /-- The name is a type name with the lead in front of it. -/
  name : IsLed lead e.name
  /-- The entry is that of the definition. -/
  eq : e = TypeEntry.of e.name d.text

/-- **The invariant of a run**, for type names with `lead` in front. -/
structure Sound (lead : List Token) (l : Ledger) : Prop where
  /-- The names of fields have come about by naming fields. -/
  names : l.names.Reachable
  /-- Every entry comes from a definition. -/
  entries : ∀ e ∈ l.types.entries, ∃ d, Rooted lead e d
  /-- No entry has a name that an earlier one has or declares. -/
  fresh : l.types.entries.Pairwise fun earlier later => later.name ∉ earlier.names

theorem sound_start (lead : List Token) (options : Options) : (start options).Sound lead where
  names := .empty
  entries _ he := absurd he List.not_mem_nil
  fresh := List.Pairwise.nil

variable {lead : List Token}

/-- The name of a registration is a type name with the lead in front, if
its stem is. -/
theorem isLed_candidate (l : Ledger) {r : Registration} (hr : IsLed lead r.stem) :
    IsLed lead (l.candidate r) := by
  obtain ⟨core, hcore, hstem⟩ := hr
  obtain ⟨tail, htail, hdigits⟩ := l.candidate_eq r
  refine ⟨core ++ tail, hcore.append fun c hc => isNameChar_of_isDigit (hdigits c hc), ?_⟩
  rw [htail, hstem, led_append]

/-- The entry of a registration comes from its definition. -/
theorem Sound.entry {l : Ledger} (h : l.Sound lead) {r : Registration} (hr : IsLed lead r.stem) :
    Rooted lead (l.entry r) (l.definition r) where
  rooted := (define_spec h.names r).2
  name := l.isLed_candidate hr
  eq := rfl

/-- **One registration keeps the invariant.** -/
theorem Sound.after {l : Ledger} (h : l.Sound lead) {r : Registration} (hr : IsLed lead r.stem) :
    (l.after r).Sound lead := by
  refine ⟨(define_spec h.names r).1, ?_, l.fresh_after r h.fresh⟩
  cases hexisting : l.existing? r with
  | some e =>
    rw [(after_of_existing hexisting).1]
    exact h.entries
  | none =>
    rw [(after_of_new hexisting).1]
    intro e he
    rcases List.mem_append.mp he with he | he
    · exact h.entries e he
    · rw [List.mem_singleton.mp he]
      exact ⟨_, h.entry hr⟩

/-- **A run keeps the invariant.** -/
theorem Sound.run {l : Ledger} (h : l.Sound lead) {rs : List Registration}
    (hrs : ∀ r ∈ rs, IsLed lead r.stem) : (l.run rs).Sound lead := by
  induction rs generalizing l with
  | nil => exact h
  | cons r rs ih =>
    exact ih (h.after (hrs r List.mem_cons_self)) fun q hq => hrs q (List.mem_cons_of_mem _ hq)

/-- The names of the entries are pairwise different. -/
theorem Sound.nodup {l : Ledger} (h : l.Sound lead) :
    (l.types.entries.map TypeEntry.name).Nodup :=
  nodup_of_fresh h.fresh

/-- **Every entry was made by a registration** that found none for its
definition, if it was not there at the start. -/
theorem exists_registration {l : Ledger} {rs : List Registration} {e : TypeEntry}
    (h : e ∈ (l.run rs).types.entries) :
    e ∈ l.types.entries ∨ ∃ before r behind, rs = before ++ r :: behind
      ∧ (l.run before).existing? r = none ∧ e = (l.run before).entry r := by
  induction rs generalizing l with
  | nil => exact Or.inl h
  | cons r rs ih =>
    rcases ih h with hmem | ⟨before, q, behind, rfl, hnone, rfl⟩
    · cases hexisting : l.existing? r with
      | some earlier =>
        rw [(after_of_existing hexisting).1] at hmem
        exact Or.inl hmem
      | none =>
        rw [(after_of_new hexisting).1] at hmem
        rcases List.mem_append.mp hmem with hmem | hmem
        · exact Or.inl hmem
        · exact Or.inr ⟨[], r, rs, rfl, hexisting, List.mem_singleton.mp hmem⟩
    · exact Or.inr ⟨r :: before, q, behind, rfl, hnone, rfl⟩

end Ledger

end TypedTraffic
