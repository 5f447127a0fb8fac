import TypedTraffic.Proofs.Declaration.Fronted
import TypedTraffic.Proofs.Session.Run

/-!
# What sharing keeps

A registration whose definition is there already is answered with the
name of an earlier entry. Leaving collisions of fingerprints aside, the
canonical texts are then equal. This does not quite make the definitions
of one shape, since a declared name is also replaced where a field has
it: they are of one shape exactly when no declared name that differs is
the name of a field (`sameShape_iff_of_shared`).

This holds for all prefixes that are accepted. A prefix that ends in a
line end puts a blank, or a word and a blank, in front of the type names;
in the second case the canonical text keeps the name of the root, and
nothing is shared.
-/

namespace TypedTraffic

open Naming Text Canonical

/-- A registration has a stem that is led as its prefix says. -/
theorem isLed_of_putsInFront {options : Options} {lead : List Token}
    (h : PutsInFront options.typePrefix lead) {capture : Capture} {r : Registration}
    (hr : r ∈ registrations options capture) : Ledger.IsLed lead r.stem := by
  obtain ⟨title, role, htitle, hrole, hstem⟩ := exists_stem_eq hr
  obtain ⟨core, hcore, hled⟩ := h ("" ++ title ++ role) (isTypeName_stem rfl htitle hrole)
  refine ⟨core, hcore, ?_⟩
  rw [hstem, ← hled, String.empty_append, String.append_assoc]

/-- A prefix that is all lead leaves the two titles of a stem for the type
name. -/
theorem isLed_of_typePrefix {options : Options} {lead : List Token}
    (hlead : options.typePrefix.toList = charsOf lead) (capture : Capture) :
    ∀ r ∈ registrations options capture, Ledger.IsLed lead r.stem :=
  fun _ hr => isLed_of_putsInFront (putsInFront_of_toList_eq hlead) hr

/-- A prefix that leaves the names of types in one piece: it is empty, an
identifier or a line end. -/
def Options.KeepsNamesWhole (options : Options) : Prop :=
  isNamePrefix options.typePrefix.toList = true ∨ options.typePrefix = "\n"

/-- A prefix that leaves the names of types in one piece puts at most
blanks in front of them. -/
theorem exists_blankLead {options : Options} (h : options.KeepsNamesWhole) :
    ∃ lead, IsBlankLead lead
      ∧ ∀ capture, ∀ r ∈ registrations options capture, Ledger.IsLed lead r.stem := by
  obtain ⟨lead, hlead, hfront⟩ := exists_blankLead_of_prefix h
  exact ⟨lead, hlead, fun _ _ hr => isLed_of_putsInFront hfront hr⟩

/-- What an accepted prefix puts in front of the type names: at most
blanks, or a word and a line end. -/
theorem exists_lead {options : Options} (h : Options.acceptsPrefix options.typePrefix = true) :
    ∃ lead, (IsBlankLead lead ∨ ∃ q, isIdentifier q = true ∧ lead = wordLead q '\n')
      ∧ ∀ capture, ∀ r ∈ registrations options capture, Ledger.IsLed lead r.stem := by
  obtain ⟨lead, hlead, hfront⟩ := exists_lead_of_prefix h
  refine ⟨lead, hlead.imp_right ?_, fun _ _ hr => isLed_of_putsInFront hfront hr⟩
  rintro ⟨q, hq, hword, -⟩
  exact ⟨q, hq, hword⟩

/-- **Definitions of one canonical text**, apart from what is in front of
their type names. -/
theorem Definition.Rooted.sameShape_iff {lead : List Token}
    (hlead : IsBlankLead lead ∨ ∃ q, isIdentifier q = true ∧ lead = wordLead q '\n')
    {n n' : String} {d d' : Definition} (hd : d.Rooted n) (hd' : d'.Rooted n')
    (hn : Ledger.IsLed lead n) (hn' : Ledger.IsLed lead n') (hne : n ≠ n')
    (h : canonical d.text = canonical d'.text) :
    d.SameShape d'
      ↔ ∀ p ∈ (headers d.text).zip (headers d'.text), p.1 ∈ d.fieldNames → p.1 = p.2 := by
  obtain ⟨core, hcore, rfl⟩ := hn
  obtain ⟨core', hcore', rfl⟩ := hn'
  obtain ⟨c, hlegible, hclosed, hname, rfl⟩ := hd.exists_legible hcore
  obtain ⟨c', hlegible', hclosed', hname', rfl⟩ := hd'.exists_legible hcore'
  rcases hlead with hblank | ⟨q, hq, rfl⟩
  · rw [Definition.sameShape_rename_iff (led_injective lead),
      Definition.sameShape_iff_of_canonical_eq hblank hlegible hlegible' h,
      Definition.headers_text hblank hlegible, Definition.headers_text hblank hlegible',
      Definition.fieldNames_rename]
  · -- the name of the root is left in the canonical text
    have hroot := Definition.name_eq_of_canonical_eq (isWordName_of_isIdentifier hq)
      hlegible.clear hclosed hlegible'.clear hclosed' h
    rw [hname, hname'] at hroot
    exact absurd (congrArg (led _) hroot) hne

/-- **What sharing keeps.** When a registration of a run is answered with
the name of an entry that is there already, that entry is the one made
from the definition of an earlier registration, and has the fingerprint of
the one just inferred. If the canonical texts are equal as well, the two
definitions are of one shape exactly when no declared name that differs is
the name of a field. -/
theorem sameShape_iff_of_shared {options : Options}
    (hstart : Options.acceptsPrefix options.typePrefix = true) {capture : Capture}
    {before behind : List Registration} {r : Registration}
    (hrun : registrations options capture = before ++ r :: behind) {l : Ledger}
    (hl : l = (Ledger.start options).run before) {existing : String} {types : TypeRegistry}
    (hshared : l.types.register (l.candidate r) (l.definition r).text
      = .ok ((existing, false), types)) :
    ∃ e ∈ l.types.entries, e.name = existing
      ∧ e.fingerprint = fingerprint (l.definition r).text
      ∧ ∃ earlier r₁ between, before = earlier ++ r₁ :: between
        ∧ ∃ l₁, l₁ = (Ledger.start options).run earlier ∧ e = l₁.entry r₁
          ∧ (canonical e.definition = canonical (l.definition r).text →
              ((l₁.definition r₁).SameShape (l.definition r)
                ↔ ∀ p ∈ (headers e.definition).zip (headers (l.definition r).text),
                    p.1 ∈ (l₁.definition r₁).fieldNames → p.1 = p.2)) := by
  obtain ⟨e, hexisting, hname⟩ := Ledger.exists_existing_eq hshared
  obtain ⟨he, hfingerprint⟩ := Ledger.mem_of_existing hexisting
  refine ⟨e, he, hname, hfingerprint, ?_⟩
  obtain ⟨lead, hlead, hstems⟩ := exists_lead hstart
  have hled : ∀ q ∈ before ++ r :: behind, Ledger.IsLed lead q.stem :=
    fun q hq => hstems capture q (hrun ▸ hq)
  -- the entry was made by an earlier registration, in a ledger that keeps the invariant too
  have hmade := he
  rw [hl] at hmade
  obtain ⟨earlier, r₁, between, rfl, -, hentry⟩ :=
    (Ledger.exists_registration hmade).resolve_left List.not_mem_nil
  refine ⟨earlier, r₁, between, rfl, _, rfl, hentry, fun hcanonical => ?_⟩
  have hsound₁ : ((Ledger.start options).run earlier).Sound lead :=
    (Ledger.sound_start lead options).run fun q hq => hled q (by simp [hq])
  have hsound : l.Sound lead := by
    rw [hl]
    exact (Ledger.sound_start lead options).run fun q hq => hled q (List.mem_append_left _ hq)
  have hfirst := hsound₁.entry (hled r₁ (by simp))
  have hnew := hsound.entry (hled r (by simp))
  rw [hentry] at hcanonical he ⊢
  refine Definition.Rooted.sameShape_iff hlead hfirst.rooted hnew.rooted hfirst.name hnew.name ?_
    hcanonical
  -- the name of the registration is free, so it is not the name of the entry
  intro heq
  refine l.candidate_not_mem_taken r (List.mem_flatMap.mpr ⟨_, he, ?_⟩)
  exact List.mem_cons.mpr (Or.inl heq.symm)

/-- Two exchanges with one field each, whose names are those of their
types. -/
def relabelled : Capture :=
  ⟨none, [.received "https://h.io/a" "\x7b\"AResponse\": 1\x7d",
    .received "https://h.io/b" "\x7b\"BResponse1\": 2\x7d"]⟩

/-- What the first of the two exchanges registers. -/
def relabelledFirst : Registration :=
  .body "AResponse" "\x7b\"AResponse\": 1\x7d" (some "application/json")

/-- What the second of the two exchanges registers. -/
def relabelledSecond : Registration :=
  .body "BResponse" "\x7b\"BResponse1\": 2\x7d" (some "application/json")

theorem registrations_relabelled :
    registrations Options.default relabelled = [relabelledFirst, relabelledSecond] := by
  decide +kernel

/-- The second exchange is answered with the type of the first. -/
theorem register_relabelled :
    let l := (Ledger.start Options.default).run [relabelledFirst]
    l.types.register (l.candidate relabelledSecond) (l.definition relabelledSecond).text
      = .ok (("AResponse", false), l.types) := by
  intro l
  obtain ⟨e, hexisting, hname⟩ : ∃ e, l.existing? relabelledSecond = some e
      ∧ e.name = "AResponse" := Option.map_eq_some_iff.mp (by decide +kernel)
  obtain ⟨htypes, hanswer⟩ := Ledger.after_of_existing hexisting
  rw [l.register_eq, htypes, hanswer, hexisting, hname]
  rfl

/-- **Sharing can confuse two shapes**: the fields of the two exchanges
have different names. -/
theorem not_sameShape_relabelled :
    let l := (Ledger.start Options.default).run [relabelledFirst]
    registrations Options.default relabelled = [relabelledFirst, relabelledSecond]
      ∧ l.types.register (l.candidate relabelledSecond) (l.definition relabelledSecond).text
        = .ok (("AResponse", false), l.types)
      ∧ canonical ((Ledger.start Options.default).entry relabelledFirst).definition
        = canonical (l.definition relabelledSecond).text
      ∧ ¬ ((Ledger.start Options.default).definition relabelledFirst).SameShape
          (l.definition relabelledSecond) := by
  intro l
  refine ⟨registrations_relabelled, register_relabelled, by decide +kernel, ?_⟩
  rintro ⟨ρ, -, hρ⟩
  have hfields := congrArg Definition.fieldNames hρ
  rw [Definition.fieldNames_rename] at hfields
  exact absurd hfields (by decide +kernel)

/-- What sharing keeps, at the second of the two exchanges. -/
theorem sameShape_iff_of_shared_relabelled :
    let l := (Ledger.start Options.default).run [relabelledFirst]
    Options.acceptsPrefix Options.default.typePrefix = true
      ∧ registrations Options.default relabelled = [relabelledFirst, relabelledSecond]
      ∧ l.types.register (l.candidate relabelledSecond) (l.definition relabelledSecond).text
        = .ok (("AResponse", false), l.types)
      ∧ ∃ e ∈ l.types.entries, e.name = "AResponse"
        ∧ e.fingerprint = fingerprint (l.definition relabelledSecond).text
        ∧ ∃ earlier r₁ between, [relabelledFirst] = earlier ++ r₁ :: between
          ∧ ∃ l₁, l₁ = (Ledger.start Options.default).run earlier ∧ e = l₁.entry r₁
            ∧ (canonical e.definition = canonical (l.definition relabelledSecond).text →
                ((l₁.definition r₁).SameShape (l.definition relabelledSecond)
                  ↔ ∀ p ∈ (headers e.definition).zip
                        (headers (l.definition relabelledSecond).text),
                      p.1 ∈ (l₁.definition r₁).fieldNames → p.1 = p.2)) :=
  ⟨by decide, registrations_relabelled, register_relabelled,
    sameShape_iff_of_shared (by decide) registrations_relabelled rfl register_relabelled⟩

end TypedTraffic
