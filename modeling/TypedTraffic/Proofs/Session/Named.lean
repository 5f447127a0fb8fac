import TypedTraffic.Proofs.Session.Shared

/-!
# How types are named

A name that a run declares is the prefix with an identifier behind it, be
it the name of an entry or that of one of its auxiliary interfaces
(`Ledger.Rooted.exists_core`). So it is an identifier exactly if the prefix is
empty or an identifier.

The check of the prefix accepts one text more for each of these: the same
with a line end behind it. A run declares identifiers exactly if the prefix
is none of them (`named_generate`).
-/

namespace TypedTraffic

open Naming Text Canonical

/-! ## Prefixes -/

/-- **A line end in front of a name** is the only thing about an accepted
prefix that makes the name no identifier. -/
theorem isIdentifier_typePrefix_append {p core : String} (hp : Options.acceptsPrefix p = true)
    (hcore : isIdentifier core = true) :
    isIdentifier (p ++ core) = true ↔ p.toList.getLast? ≠ some '\n' := by
  constructor
  · intro hname hlast
    have hmem : '\n' ∈ (p ++ core).toList := by
      rw [String.toList_append]
      exact List.mem_append_left _ (List.mem_of_getLast? hlast)
    exact absurd ((isIdentifier_iff.mp hname).2 _ hmem) (by decide)
  · intro hlast
    rw [Options.acceptsPrefix, Bool.or_eq_true, Bool.and_eq_true, beq_iff_eq] at hp
    exact isIdentifier_prefix_append (hp.resolve_right fun h => hlast h.1) hcore

/-! ## Names that are declared -/

/-- **A declared name is the prefix with an identifier behind it.** -/
theorem Ledger.Rooted.exists_core {lead : List Token} {e : TypeEntry} {d : Definition}
    (h : Ledger.Rooted lead e d) {n : String} (hn : n ∈ d.names) :
    ∃ core, isIdentifier core = true ∧ n = led lead core := by
  obtain ⟨tail, rfl, htail⟩ := h.rooted.stems n hn
  obtain ⟨core, hcore, hname⟩ := h.name
  exact ⟨core ++ tail, (hcore.append htail).identifier, by rw [hname, led_append]⟩

/-- **An entry that is made in a run**: a registration finds none for its
definition, and this is what it leads to. -/
structure Capture.Makes (capture : Capture) (options : Options) (e : TypeEntry)
    (d : Definition) : Prop where
  /-- The entry and the definition are those of a registration, in the
  ledger that those before it leave. -/
  registration : ∃ before r behind, registrations options capture = before ++ r :: behind
    ∧ ((Ledger.start options).run before).existing? r = none
    ∧ e = ((Ledger.start options).run before).entry r
    ∧ d = ((Ledger.start options).run before).definition r
  /-- The definition has the name of the entry. -/
  name : d.name = e.name
  /-- The text of the entry is that of the definition. -/
  text : d.text = e.definition

/-- **How the types of a run are named.** Every entry is made from a
definition, and each name it declares, the first and those of the auxiliary
interfaces, is the prefix with an identifier behind it. With an accepted
prefix such a name is an identifier exactly if the prefix does not end in a
line end. -/
theorem named_generate {options : Options}
    (hstart : Options.acceptsPrefix options.typePrefix = true) (capture : Capture) :
    ∃ sdk s, generate options capture = .ok (sdk, s)
      ∧ ∀ e ∈ sdk.types, ∃ d, capture.Makes options e d
        ∧ ∀ n ∈ d.names, (∃ core, isIdentifier core = true ∧ n = options.typePrefix ++ core)
          ∧ (isIdentifier n = true ↔ options.typePrefix.toList.getLast? ≠ some '\n') := by
  obtain ⟨sdk, s, hrun, hledger, htypes, -⟩ := exists_generate_eq options capture
  refine ⟨sdk, s, hrun, fun e he => ?_⟩
  rw [htypes, hledger] at he
  obtain ⟨before, r, behind, hsplit, hnew, rfl⟩ :=
    (Ledger.exists_registration he).resolve_left List.not_mem_nil
  -- whatever the prefix is, it stands in front of the names of types as it is
  have hlead : options.typePrefix.toList = charsOf (tokens options.typePrefix.toList) :=
    (charsOf_tokens _).symm
  have hled := isLed_of_typePrefix hlead capture
  have hsound : ((Ledger.start options).run before).Sound (tokens options.typePrefix.toList) :=
    (Ledger.sound_start _ options).run fun q hq => hled q (by rw [hsplit]; simp [hq])
  have hentry := hsound.entry (hled r (by rw [hsplit]; simp))
  refine ⟨_, ⟨⟨before, r, behind, hsplit, hnew, rfl, rfl⟩, hentry.rooted.name, rfl⟩,
    fun n hn => ?_⟩
  obtain ⟨core, hcore, hname⟩ := hentry.exists_core hn
  have heq : n = options.typePrefix ++ core := by
    rw [hname, led, charsOf_tokens, String.ofList_toList]
  exact ⟨⟨core, hcore, heq⟩, by rw [heq]; exact isIdentifier_typePrefix_append hstart hcore⟩

/-- Options with a line end behind the prefix. -/
def brokenPrefix : Options := ⟨true, "X\n", false⟩

/-- An exchange with a nested object. -/
def nestedUser : Capture :=
  ⟨none, [.received "https://h.io/users" "\x7b\"owner\": \x7b\"id\": 1\x7d\x7d"]⟩

/-- **A prefix may break the names behind it**: a line end is accepted. -/
theorem not_isIdentifier_brokenPrefix : ¬ ∀ (options : Options) (capture : Capture),
    Options.acceptsPrefix options.typePrefix = true →
      ∃ sdk s, generate options capture = .ok (sdk, s)
        ∧ ∀ e ∈ sdk.types, isIdentifier e.name = true := by
  intro h
  obtain ⟨sdk, s, hrun, hall⟩ := h brokenPrefix nestedUser (by decide)
  have hnames : (generate brokenPrefix nestedUser).map
      (fun p => p.1.types.all fun e => isIdentifier e.name) = .ok false := by
    decide +kernel
  rw [hrun] at hnames
  have hbroken : (sdk.types.all fun e => isIdentifier e.name) = false := Except.ok.inj hnames
  exact absurd (List.all_eq_true.mpr hall) (by rw [hbroken]; decide)

/-- How the types of the exchange are named behind a prefix with a line
end. -/
theorem named_generate_brokenPrefix :
    Options.acceptsPrefix brokenPrefix.typePrefix = true
      ∧ ∃ sdk s, generate brokenPrefix nestedUser = .ok (sdk, s)
        ∧ ∀ e ∈ sdk.types, ∃ d, nestedUser.Makes brokenPrefix e d
          ∧ ∀ n ∈ d.names,
            (∃ core, isIdentifier core = true ∧ n = brokenPrefix.typePrefix ++ core)
            ∧ (isIdentifier n = true ↔ brokenPrefix.typePrefix.toList.getLast? ≠ some '\n') :=
  ⟨by decide, named_generate (by decide) nestedUser⟩

end TypedTraffic
