import TypedTraffic.Proofs.Declaration.Relabelled
import TypedTraffic.Proofs.Session.Run

/-!
# What a run declares

For a prefix that is empty or an identifier, every entry of a run has a
definition that is legible and closed and begins with the name of the
entry (`Ledger.Rooted.definition`). So the result of a run is closed under
reference: the types of its bindings are the names of its entries, and
every type of a field is a primitive one or a name of the same definition
(`closed_generate`).

The name of a new entry is free among all names that are declared, but
the names of its auxiliary interfaces are chosen without a look at the
registry. So a name is declared twice exactly when an auxiliary interface
has a name that an earlier entry declares (`nodup_headers_iff`), which
happens (`headers_clashing`).
-/

namespace TypedTraffic

open Naming Text Canonical

namespace Ledger

/-- With nothing in front, a type name is a led name. -/
theorem isLed_nil {n : String} (h : IsTypeName n) : IsLed [] n :=
  ⟨n, h, by rw [led_nil, id_eq]⟩

/-- **The definition of an entry**, when nothing is in front of the type
names: it is the only legible one of that text. -/
theorem Rooted.definition {e : TypeEntry} {d : Definition} (h : Rooted [] e d) :
    d.Legible ∧ d.Closed ∧ e.definition = d.text ∧ headers e.definition = d.names
      ∧ d.name = e.name := by
  obtain ⟨core, hcore, hname⟩ := h.name
  have hrooted := h.rooted
  rw [hname] at hrooted
  obtain ⟨c, hlegible, hclosed, -, hrename⟩ := hrooted.exists_legible hcore
  have htext : e.definition = d.text := by
    rw [h.eq]
    rfl
  have hheaders := Definition.headers_text isBlankLead_nil hlegible
  rw [led_nil, Definition.rename_id] at hrename
  rw [led_nil, Definition.rename_id, hrename] at hheaders
  subst hrename
  exact ⟨hlegible, hclosed, htext, by rw [htext, hheaders], h.rooted.name⟩

/-- **The names an entry declares**: its own first, and no name twice. -/
theorem Rooted.headers {e : TypeEntry} {d : Definition} (h : Rooted [] e d) :
    (∃ auxiliary, Canonical.headers e.definition = e.name :: auxiliary)
      ∧ (Canonical.headers e.definition).Nodup
      ∧ ∀ n, n ∈ e.names ↔ n ∈ Canonical.headers e.definition := by
  obtain ⟨hlegible, -, -, hheaders, hname⟩ := h.definition
  have hcons : Canonical.headers e.definition = e.name :: d.auxiliaryNames := by
    rw [hheaders, Definition.names_eq_cons, hname]
  have hdeclared : e.declared = declaredNames e.definition := by
    rw [h.eq]
    rfl
  refine ⟨⟨_, hcons⟩, by rw [hheaders]; exact hlegible.nodup, fun n => ?_⟩
  rw [TypeEntry.names, List.mem_cons, hdeclared, declaredNames_eq, Ordered.mem_distinct, hcons,
    List.mem_cons]
  tauto

end Ledger

/-! ## The end of a run -/

section Run

variable {options : Options} (hstart : Options.isNamePrefix options.typePrefix.toList = true)
  (capture : Capture)

include hstart

/-- The stems of a run are type names. -/
theorem isLed_stem {r : Registration} (hr : r ∈ registrations options capture) :
    Ledger.IsLed [] r.stem := by
  obtain ⟨title, role, htitle, hrole, hstem⟩ := exists_stem_eq hr
  rw [hstem]
  exact Ledger.isLed_nil (isTypeName_stem hstart htitle hrole)

/-- The ledger at the end of a run keeps the invariant. -/
theorem sound_run :
    ((Ledger.start options).run (registrations options capture)).Sound [] :=
  (Ledger.sound_start [] options).run fun _ hr => isLed_stem hstart capture hr

end Run

/-! ## Closure under reference -/

/-- Exactly one entry has the name. -/
def Session.Sdk.Defines (sdk : Session.Sdk) (n : String) : Prop :=
  (sdk.types.map TypeEntry.name).count n = 1

/-- **A binding whose types are resolved**: each is what stands for a type
that is not known, or the name of exactly one entry. -/
structure Binding.ResolvedIn (sdk : Session.Sdk) (b : Binding) : Prop where
  /-- The type of the query parameters. -/
  params : b.paramsType = unknownParams ∨ sdk.Defines b.paramsType
  /-- The type of the request body. -/
  body : b.bodyType = noBody ∨ sdk.Defines b.bodyType
  /-- The type of the response. -/
  response : b.responseType = unknownResponse ∨ ∃ n, b.responseType = responseOf n ∧ sdk.Defines n

/-- **An entry that is closed under reference.** -/
structure TypeEntry.ClosedUnderReference (e : TypeEntry) : Prop where
  /-- Its own name is declared first. -/
  first : ∃ auxiliary, headers e.definition = e.name :: auxiliary
  /-- No name is declared twice. -/
  nodup : (headers e.definition).Nodup
  /-- The text is that of one legible definition, with these names, in
  which a type is primitive or a name of the same definition, with list
  brackets behind. -/
  definition : ∃ d : Definition, d.Legible ∧ d.text = e.definition
    ∧ (∀ d' : Definition, d'.Legible → d'.text = e.definition → d' = d)
    ∧ d.names = headers e.definition
    ∧ ∀ f ∈ d.fields, f.type.base ∈ [TypeExpr.any, .number, .string, .boolean, .queryValue]
        ∨ ∃ n ∈ d.names, f.type.base = .named n

/-- The definition of an entry is closed under reference. -/
theorem Ledger.Rooted.closedUnderReference {e : TypeEntry} {d : Definition}
    (h : Ledger.Rooted [] e d) : e.ClosedUnderReference := by
  obtain ⟨hlegible, hclosed, htext, hheaders, -⟩ := h.definition
  obtain ⟨hfirst, hnodup, -⟩ := h.headers
  refine ⟨hfirst, hnodup, d, hlegible, htext.symm, ?_, hheaders.symm, fun f hf => ?_⟩
  · intro d' hd' hd'text
    exact Definition.eq_of_text_eq hd' hlegible (hd'text.trans htext)
  · rcases f.type.base_eq with ⟨-, hprimitive⟩ | ⟨n, href, hbase⟩
    · exact Or.inl hprimitive
    · refine Or.inr ⟨n, ?_, hbase⟩
      rw [Definition.names_eq_cons]
      exact List.mem_cons_of_mem _ (hclosed n (Definition.mem_references.mpr ⟨f, hf, href⟩))

/-- The types of a binding are resolved by what has all the names there
are when its group is bound. -/
theorem Ledger.Binds.resolvedIn {l : Ledger} {options : Options} {g : EndpointGroup} {b : Binding}
    {sdk : Session.Sdk} (h : l.Binds options g b)
    (hdefines : ∀ n ∈ (l.run (g.registrations options)).types.entries.map TypeEntry.name,
      sdk.Defines n) : b.ResolvedIn sdk := by
  rw [EndpointGroup.registrations] at hdefines
  refine ⟨?_, ?_, ?_⟩
  · rw [h.params]
    rcases lastAnswer_eq id l unknownParams (g.params options) with hnone | ⟨n, hn, heq⟩
    · exact Or.inl hnone
    · rw [heq]
      rw [List.append_assoc] at hdefines
      exact Or.inr (hdefines n (mem_names_run_append hn _))
  · rw [h.body]
    rcases lastAnswer_eq id (l.run (g.params options)) noBody (g.requests options) with
      hnone | ⟨n, hn, heq⟩
    · exact Or.inl hnone
    · rw [heq]
      rw [← run_append] at hn
      exact Or.inr (hdefines n (mem_names_run_append hn _))
  · rw [h.response]
    rcases lastAnswer_eq responseOf (l.run (g.params options ++ g.requests options))
      unknownResponse (g.responses options) with hnone | ⟨n, hn, heq⟩
    · exact Or.inl hnone
    · rw [← run_append] at hn
      exact Or.inr ⟨n, heq, hdefines n hn⟩

/-- **The result of a run is closed under reference.** -/
theorem closed_generate {options : Options}
    (hstart : Options.isNamePrefix options.typePrefix.toList = true) (capture : Capture) :
    ∃ sdk s, generate options capture = .ok (sdk, s)
    ∧ (∀ b ∈ sdk.bindings, b.ResolvedIn sdk) ∧ ∀ e ∈ sdk.types, e.ClosedUnderReference := by
  obtain ⟨sdk, s, hrun, hledger, htypes, hbindings⟩ := exists_generate_eq options capture
  have hsound := sound_run hstart capture
  rw [← hledger] at hsound
  refine ⟨sdk, s, hrun, fun b hb => ?_, fun e he => ?_⟩
  · obtain ⟨before, g, behind, hgroups, hbinds⟩ := hbindings b hb
    refine hbinds.resolvedIn fun n hn => ?_
    -- a name that is there when the group is bound is still there at the end of the run
    have hregistrations : registrations options capture
        = before.flatMap (EndpointGroup.registrations options) ++ g.registrations options
          ++ behind.flatMap (EndpointGroup.registrations options) := by
      rw [registrations, hgroups, List.flatMap_append, List.flatMap_cons, List.append_assoc]
    rw [← Ledger.run_append] at hn
    have hend := Ledger.mem_names_run_append hn
      (behind.flatMap (EndpointGroup.registrations options))
    rw [← hregistrations, ← hledger, ← htypes] at hend
    have hnodup := hsound.nodup
    rw [← htypes] at hnodup
    exact List.count_eq_one_of_mem hnodup hend
  · rw [htypes] at he
    obtain ⟨d, hd⟩ := hsound.entries e he
    exact hd.closedUnderReference

theorem closed_generate_api : Options.isNamePrefix "Api".toList = true
    ∧ ∃ sdk s, generate ⟨true, "Api", false⟩
        ⟨none, [.received "https://h.io/users/1" "\x7b\"id\": 1, \"tags\": []\x7d"]⟩ = .ok (sdk, s)
      ∧ (∀ b ∈ sdk.bindings, b.ResolvedIn sdk) ∧ ∀ e ∈ sdk.types, e.ClosedUnderReference :=
  ⟨by decide, closed_generate (by decide) _⟩

/-! ## Names that are declared twice -/

/-- **No name is declared twice** in one definition of a run, and no entry
has a name that an earlier one declares. In all definitions taken
together no name is declared twice exactly if no auxiliary interface has
a name that an earlier entry declares. -/
theorem nodup_headers_iff {options : Options}
    (hstart : Options.isNamePrefix options.typePrefix.toList = true) (capture : Capture) :
    ∃ sdk s, generate options capture = .ok (sdk, s)
    ∧ (∀ e ∈ sdk.types, (headers e.definition).Nodup)
    ∧ (sdk.types.Pairwise fun earlier later => later.name ∉ headers earlier.definition)
    ∧ ((sdk.types.flatMap fun e => headers e.definition).Nodup
      ↔ sdk.types.Pairwise fun earlier later =>
          ∀ n ∈ (headers later.definition).tail, n ∉ headers earlier.definition) := by
  obtain ⟨sdk, s, hrun, hledger, htypes, -⟩ := exists_generate_eq options capture
  have hsound := sound_run hstart capture
  rw [← hledger] at hsound
  have hheaders : ∀ e ∈ s.ledger.types.entries,
      (∃ auxiliary, headers e.definition = e.name :: auxiliary)
        ∧ (headers e.definition).Nodup ∧ ∀ n, n ∈ e.names ↔ n ∈ headers e.definition := by
    intro e he
    obtain ⟨d, hd⟩ := hsound.entries e he
    exact hd.headers
  have hfresh : s.ledger.types.entries.Pairwise fun earlier later =>
      later.name ∉ headers earlier.definition := by
    refine hsound.fresh.imp_of_mem ?_
    intro earlier later hearlier _ hnot hmem
    exact hnot (((hheaders earlier hearlier).2.2 _).mpr hmem)
  rw [← htypes] at hheaders hfresh
  refine ⟨sdk, s, hrun, fun e he => (hheaders e he).2.1, hfresh, ?_⟩
  rw [List.nodup_flatMap]
  constructor
  · rintro ⟨-, hdisjoint⟩
    refine hdisjoint.imp ?_
    intro earlier later hdis n hn hmem
    exact hdis hmem (List.mem_of_mem_tail hn)
  · intro hauxiliary
    refine ⟨fun e he => (hheaders e he).2.1, ?_⟩
    refine (hauxiliary.and hfresh).imp_of_mem ?_
    rintro earlier later - hlater ⟨hrest, hname⟩ n hmem hmem'
    -- the name of the later entry is free, so only its auxiliary names are left
    obtain ⟨⟨auxiliary, hcons⟩, -, -⟩ := hheaders later hlater
    change n ∈ headers later.definition at hmem'
    rw [hcons] at hmem' hrest
    rcases List.mem_cons.mp hmem' with rfl | hmem'
    · exact hname hmem
    · exact hrest n hmem' hmem

/-- Two exchanges whose second leads to an auxiliary interface with the
name of the first. -/
def clashing : Capture :=
  ⟨none, [.received "https://h.io/a-response1-foo" "\x7b\"x\": 1\x7d",
    .received "https://h.io/a" "\x7b\"foo-response\": \x7b\"y\": 1\x7d\x7d"]⟩

/-- **A name can be declared twice**: the registry does not look at the
names of auxiliary interfaces. -/
theorem headers_clashing : ¬ ∀ (options : Options) (capture : Capture),
    Options.isNamePrefix options.typePrefix.toList = true →
      ∃ sdk s, generate options capture = .ok (sdk, s)
        ∧ (sdk.types.flatMap fun e => headers e.definition).Nodup := by
  intro h
  obtain ⟨sdk, s, hrun, hnodup⟩ := h Options.default clashing (by decide)
  have hheaders : (generate Options.default clashing).map
      (fun p => p.1.types.flatMap fun e => headers e.definition)
        = .ok ["AResponse1FooResponse", "AResponse1", "AResponse1FooResponse"] := by
    decide +kernel
  rw [hrun] at hheaders
  have htypes : (sdk.types.flatMap fun e => headers e.definition) = _ := Except.ok.inj hheaders
  rw [htypes] at hnodup
  exact absurd hnodup (by decide)

theorem nodup_headers_iff_clashing :
    Options.isNamePrefix Options.default.typePrefix.toList = true
      ∧ ∃ sdk s, generate Options.default clashing = .ok (sdk, s)
        ∧ (∀ e ∈ sdk.types, (headers e.definition).Nodup)
        ∧ (sdk.types.Pairwise fun earlier later => later.name ∉ headers earlier.definition)
        ∧ ((sdk.types.flatMap fun e => headers e.definition).Nodup
          ↔ sdk.types.Pairwise fun earlier later =>
              ∀ n ∈ (headers later.definition).tail, n ∉ headers earlier.definition) :=
  ⟨by decide, nodup_headers_iff (by decide) clashing⟩

end TypedTraffic
