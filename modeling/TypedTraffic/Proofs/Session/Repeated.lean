import TypedTraffic.Proofs.Declaration.Renamed
import TypedTraffic.Proofs.Endpoint.Repeated
import TypedTraffic.Proofs.Session.Placed
import TypedTraffic.Proofs.Session.Shared
import TypedTraffic.Proofs.Shape.Rerooted

/-!
# An exchange that is recorded twice

A registration that is made twice in a row is inferred under another name
the second time, with its field names there already. What it leads to is
the first definition with its types renamed
(`Reading.definition_rename`). Renamed types do not show in the canonical
text, so the second registration is answered with the entry of the first,
and nothing is left of it (`Ledger.repeats_of_unmistakable`); the rest of
the run goes through the same ledgers and binds the same
(`generate_repeated`).

There is one condition. A field that is called like a declared type does
show in the canonical text, and then recording an exchange twice gives one
type more (`types_repeated`).
-/

namespace TypedTraffic

open Naming Text Canonical

/-! ## A definition under another name -/

/-- The lists of fields that the definition of a reading comes across. -/
def Reading.listsMet (root : String) (fieldName : SourceName → String) :
    Reading → List (List Field)
  | .object fields => (Layout.mk root fieldName).listsOfFields fields []
  | _ => []

/-- **A reading under another root** leads to the same definition with its
types renamed. -/
theorem Reading.definition_rename {root root' : String} {fieldName : SourceName → String}
    {ρ : String → String} (hρ : Layout.Reroots root root' ρ) {reading : Reading}
    (hlists : Layout.ToldApart (reading.listsMet root fieldName))
    (hlists' : Layout.ToldApart (reading.listsMet root' fieldName)) :
    reading.definition root' fieldName = (reading.definition root fieldName).rename ρ := by
  cases reading with
  | query keys =>
    simp only [definition, Definition.rename, Interface.rename, hρ.root_eq, List.map_map]
    rfl
  | form pairs =>
    have hnone : ∀ f ∈ pairs.foldl (putPair fieldName) [], f.2.reference? = none := by
      intro f hf
      obtain ⟨pair, -, rfl⟩ := (exists_of_mem_putPairs hf).resolve_left List.not_mem_nil
      exact Sample.reference?_formValueType pair.2
    simp only [definition, Definition.rename, Interface.rename, hρ.root_eq, List.map_map]
    refine congrArg (fun fields => Definition.interfaces ⟨root', fields⟩ [])
      (List.map_congr_left fun f hf => ?_)
    have htype : f.2.rename ρ = f.2.rename id :=
      TypeExpr.rename_congr fun n hn => absurd hn (by rw [hnone f hf]; simp)
    rw [TypeExpr.rename_id] at htype
    exact congrArg (fun type => Field.mk f.1 type false) htype.symm
  | object fields =>
    have hroots : Layout.Reroots (Layout.mk root fieldName).root (Layout.mk root' fieldName).root ρ :=
      hρ
    exact Layout.definition_rename hroots rfl hlists hlists'
  | unknown target met => exact congrArg (Definition.alias · target) hρ.root_eq.symm

/-- **A definition in which no field is called like a type** that it
declares. -/
def Definition.Plain (d : Definition) : Prop := ∀ f ∈ d.fieldNames, f ∉ headers d.text

/-- **Plain definitions of one shape have one canonical text**, with at
most blanks in front of their type names. -/
theorem Definition.Rooted.canonical_eq {lead : List Token} (hl : IsBlankLead lead) {n n' : String}
    {d d' : Definition} (hd : d.Rooted n) (hd' : d'.Rooted n') (hn : Ledger.IsLed lead n)
    (hn' : Ledger.IsLed lead n') (hshape : d.SameShape d') (hplain : d.Plain)
    (hplain' : d'.Plain) : canonical d.text = canonical d'.text := by
  obtain ⟨core, hcore, rfl⟩ := hn
  obtain ⟨core', hcore', rfl⟩ := hn'
  obtain ⟨c, hlegible, hclosed, -, rfl⟩ := hd.exists_legible hcore
  obtain ⟨c', hlegible', -, -, rfl⟩ := hd'.exists_legible hcore'
  have hshape' := (Definition.sameShape_rename_iff (led_injective lead)).mp hshape
  have hsame : c'.fieldNames = c.fieldNames := by
    obtain ⟨ρ, -, rfl⟩ := hshape'
    exact fieldNames_rename ρ c
  rw [Plain, fieldNames_rename, headers_text hl hlegible] at hplain
  rw [Plain, fieldNames_rename, headers_text hl hlegible', hsame] at hplain'
  refine (canonical_eq_iff hl hlegible hlegible' hclosed hshape').mpr ?_
  rintro ⟨m, m'⟩ hp (hm | hm)
  · exact absurd (List.of_mem_zip hp).1 (hplain m hm)
  · exact absurd (List.of_mem_zip hp).2 (hplain' m' hm)

/-! ## A registration that is made twice -/

namespace Ledger

/-- The lists of fields that the definition of a registration comes
across. -/
def listsMet (l : Ledger) (r : Registration) : List (List Field) :=
  r.reading.listsMet (l.candidate r) (l.after r).names.fieldName

/-- **A registration whose definition can be mistaken for no other**: no
field is called like a declared type, and fingerprints tell apart the
lists of fields. -/
structure Unmistakable (l : Ledger) (r : Registration) : Prop where
  /-- No field is called like a declared type. -/
  plain : (l.definition r).Plain
  /-- Fingerprints tell the lists of fields apart. -/
  apart : Layout.ToldApart (l.listsMet r)

/-- **A registration that may be repeated**: nothing comes of it the second
time, and the answer is the same. -/
structure Repeats (l : Ledger) (r : Registration) : Prop where
  /-- Nothing changes. -/
  after : (l.after r).after r = l.after r
  /-- The answer is that of the first time. -/
  answer : (l.after r).answer r = l.answer r

/-- The second time the keys have their names. -/
theorem after_after_names (l : Ledger) (r : Registration) :
    ((l.after r).after r).names = (l.after r).names := by
  rw [after_names (l.after r), after_names, FieldNames.nameFields_nameFields]

@[ext] theorem ext {l l' : Ledger} (hnames : l.names = l'.names) (htypes : l.types = l'.types) :
    l = l' := by
  cases l
  cases l'
  cases hnames
  cases htypes
  rfl

theorem candidate_congr {l l' : Ledger} (h : l.types = l'.types) (r : Registration) :
    l.candidate r = l'.candidate r := by
  cases r <;> simp only [candidate, h]

/-- A registration that finds the first answer may be repeated. -/
theorem repeats_of_existing {l : Ledger} {r : Registration} {e : TypeEntry}
    (h : (l.after r).existing? r = some e) (hname : e.name = l.answer r) : l.Repeats r := by
  obtain ⟨htypes, hanswer⟩ := after_of_existing h
  exact ⟨ext (l.after_after_names r) htypes, hanswer.trans hname⟩

/-- **What is there already may be registered again**, and is there again. -/
theorem repeats_of_existing_first {l : Ledger} {r : Registration} {e : TypeEntry}
    (h : l.existing? r = some e) : l.Repeats r := by
  obtain ⟨htypes, hanswer⟩ := after_of_existing h
  have hdefinition : (l.after r).definition r = l.definition r := by
    rw [definition_eq, definition_eq, after_after_names, candidate_congr htypes]
  refine repeats_of_existing (e := e) ?_ hanswer.symm
  rw [existing?, htypes, hdefinition]
  exact h

theorem shared_after (l : Ledger) (r : Registration) :
    (l.after r).types.shared = l.types.shared := by
  cases h : l.existing? r with
  | some e => rw [(after_of_existing h).1]
  | none => rw [(after_of_new h).1]; rfl

theorem shared_run (l : Ledger) (rs : List Registration) :
    (l.run rs).types.shared = l.types.shared := by
  induction rs generalizing l with
  | nil => rfl
  | cons r rs ih => exact (ih (l.after r)).trans (l.shared_after r)

/-- **A new definition is found again** by its fingerprint. -/
theorem existing?_of_fingerprint {l : Ledger} {r : Registration} (hshared : l.types.shared = true)
    (hnew : l.existing? r = none)
    (h : fingerprint ((l.after r).definition r).text = fingerprint (l.definition r).text) :
    (l.after r).existing? r = some (l.entry r) := by
  have hnone : l.types.entries.find? (·.fingerprint == fingerprint (l.definition r).text) = none := by
    rw [existing?, if_pos hshared, TypeRegistry.find?_eq] at hnew
    exact hnew
  -- no earlier entry has the fingerprint, so the new one is the first
  have hself : ([l.entry r].find? (·.fingerprint == fingerprint (l.definition r).text))
      = some (l.entry r) := List.find?_cons_of_pos (beq_iff_eq.mpr rfl)
  rw [existing?, if_pos ((l.shared_after r).trans hshared), TypeRegistry.find?_eq, h,
    (after_of_new hnew).1]
  exact (List.find?_append ..).trans (by rw [hnone, hself, Option.none_or])

/-- **A new definition under its second name** has the canonical text that
it has under the first, if it can be mistaken for no other under either. -/
theorem canonical_after {lead : List Token} (hl : IsBlankLead lead) {l : Ledger}
    (hsound : l.Sound lead) {r : Registration} (hr : IsLed lead r.stem) (h : l.Unmistakable r)
    (h' : (l.after r).Unmistakable r) :
    canonical (l.definition r).text = canonical ((l.after r).definition r).text := by
  have hrooted := (hsound.entry hr).rooted
  have hrooted' := ((hsound.after hr).entry hr).rooted
  obtain ⟨ρ, hρ⟩ := Layout.exists_reroots (l.candidate r) ((l.after r).candidate r)
  have hrename : (l.after r).definition r = (l.definition r).rename ρ := by
    have hlists' := h'.apart
    rw [listsMet, after_after_names] at hlists'
    rw [definition_eq, definition_eq, after_after_names]
    exact Reading.definition_rename hρ h.apart hlists'
  have hinj : Set.InjOn ρ {n | n ∈ (l.definition r).names} := by
    intro m hm n hn hmn
    obtain ⟨s, hs, -⟩ := hrooted.stems m hm
    obtain ⟨t, ht, -⟩ := hrooted.stems n hn
    exact hρ.inj ⟨s, hs⟩ ⟨t, ht⟩ hmn
  exact hrooted.canonical_eq hl hrooted' (l.isLed_candidate hr) ((l.after r).isLed_candidate hr)
    ⟨ρ, hinj, hrename.symm⟩ h.plain h'.plain

/-- **A registration may be repeated** if its definition is there already,
or can be mistaken for no other. -/
theorem repeats_of_unmistakable {lead : List Token} (hl : IsBlankLead lead) {l : Ledger}
    (hsound : l.Sound lead) (hshared : l.types.shared = true) {r : Registration}
    (hr : IsLed lead r.stem)
    (h : l.existing? r = none → l.Unmistakable r ∧ (l.after r).Unmistakable r) : l.Repeats r := by
  cases hexisting : l.existing? r with
  | some e => exact repeats_of_existing_first hexisting
  | none =>
    obtain ⟨hfirst, hsecond⟩ := h hexisting
    have hcanonical := canonical_after hl hsound hr hfirst hsecond
    refine repeats_of_existing (e := l.entry r) ?_ (after_of_new hexisting).2.symm
    refine existing?_of_fingerprint hshared hexisting ?_
    rw [fingerprint, fingerprint, hcanonical]

end Ledger

/-! ## A group with a repeated exchange -/

/-- **An exchange that registers something**: the body of its request, or
that of its response. -/
def Exchange.Registers (e : Exchange) (r : Registration) : Prop :=
  ∃ stem, e.requestRegistration? stem = some r ∨ e.responseRegistration? stem = some r

namespace Ledger

/-- **Lists of registrations with the same effect** on a ledger. -/
structure SameEffect (l : Ledger) (rs rs' : List Registration) : Prop where
  /-- They lead to the same ledger. -/
  run_eq : l.run rs' = l.run rs
  /-- The last answers are the same. -/
  lastAnswer_eq : ∀ wrap type, l.lastAnswer wrap type rs' = l.lastAnswer wrap type rs

theorem SameEffect.refl (l : Ledger) (rs : List Registration) : l.SameEffect rs rs :=
  ⟨rfl, fun _ _ => rfl⟩

/-- A registration that may be repeated has the same effect twice as once,
whatever comes before and behind. -/
theorem SameEffect.twice {l : Ledger} {before : List Registration} {r? : Option Registration}
    (h : ∀ r, r? = some r → (l.run before).Repeats r) (behind : List Registration) :
    l.SameEffect (before ++ (r?.toList ++ behind))
      (before ++ (r?.toList ++ (r?.toList ++ behind))) := by
  cases r? with
  | none => exact .refl l _
  | some r =>
    obtain ⟨hafter, hanswer⟩ := h r rfl
    simp only [Option.toList_some, List.singleton_append]
    refine ⟨?_, fun wrap type => ?_⟩
    · rw [run_append, run_append]
      exact congrArg (Ledger.run · behind) hafter
    · rw [lastAnswer_append, lastAnswer_append]
      simp only [Ledger.lastAnswer, hafter, hanswer]

/-- **An exchange that may be repeated among some registrations**: so may
be what it registers, wherever this is registered. -/
def RepeatsIn (l : Ledger) (e : Exchange) (rs : List Registration) : Prop :=
  ∀ before r behind, rs = before ++ r :: behind → e.Registers r → (l.run before).Repeats r

namespace RepeatsIn

variable {l : Ledger} {e : Exchange} {rs rs' : List Registration}

theorem left (h : l.RepeatsIn e (rs ++ rs')) : l.RepeatsIn e rs := by
  rintro before r behind rfl hr
  exact h before r (behind ++ rs') (by simp) hr

theorem right (h : l.RepeatsIn e (rs ++ rs')) : (l.run rs).RepeatsIn e rs' := by
  rintro before r behind rfl hr
  rw [← run_append]
  exact h (rs ++ before) r behind (by simp) hr

/-- **Repeating an exchange** has no effect on what is registered for it. -/
theorem sameEffect {f : Exchange → Option Registration}
    (hf : ∀ r, f e = some r → e.Registers r) {es es' : List Exchange}
    (h : l.RepeatsIn e ((es ++ e :: es').filterMap f)) :
    l.SameEffect ((es ++ e :: es').filterMap f) ((es ++ e :: e :: es').filterMap f) := by
  have htwice := filterMap_append_cons f [] e es'
  simp only [List.nil_append, List.filterMap_nil] at htwice
  rw [filterMap_append_cons] at h
  rw [filterMap_append_cons, filterMap_append_cons, htwice]
  refine .twice (fun r hr => h _ r (es'.filterMap f) ?_ (hf r hr)) _
  rw [hr]
  rfl

end RepeatsIn

end Ledger

namespace EndpointGroup

variable {e : Exchange} {g g' : EndpointGroup} (h : g.Repeats e g')

include h

/-- The group is that of the same endpoint, and starts with the same
exchange. -/
theorem Repeats.exists_first (hne : g.exchanges ≠ []) :
    g'.method = g.method ∧ g'.resource = g.resource
      ∧ ∃ first rest rest', g.exchanges = first :: rest ∧ g'.exchanges = first :: rest' := by
  cases h with
  | same g =>
    obtain ⟨first, rest, hfirst⟩ := List.exists_cons_of_ne_nil hne
    exact ⟨rfl, rfl, first, rest, rest, hfirst, hfirst⟩
  | twice method resource es es' =>
    cases es with
    | nil => exact ⟨rfl, rfl, e, es', e :: es', rfl, rfl⟩
    | cons d es => exact ⟨rfl, rfl, d, es ++ e :: es', es ++ e :: e :: es', rfl, rfl⟩

/-- There are no other exchanges in the group. -/
theorem Repeats.mem_iff (d : Exchange) : d ∈ g'.exchanges ↔ d ∈ g.exchanges := by
  cases h with
  | same g => rfl
  | twice method resource es es' => simp

/-- **Repeating an exchange** has no effect on the registrations of its
group. -/
theorem Repeats.sameEffect (hurl : ∀ d ∈ g.exchanges, d.Readable) {options : Options}
    {l : Ledger} (hl : l.RepeatsIn e (g.registrations options)) :
    g'.params options = g.params options
      ∧ (l.run (g.params options)).SameEffect (g.requests options) (g'.requests options)
      ∧ (l.run (g.params options ++ g.requests options)).SameEffect (g.responses options)
          (g'.responses options) := by
  cases h with
  | same g => exact ⟨rfl, .refl _ _, .refl _ _⟩
  | twice method resource es es' =>
    refine ⟨?_, ?_, ?_⟩
    · rw [params, params, paramsRegistrations, paramsRegistrations, queryParameters_repeated hurl]
      rfl
    · exact hl.left.right.sameEffect fun r hr => ⟨_, Or.inl hr⟩
    · exact hl.right.sameEffect fun r hr => ⟨_, Or.inr hr⟩

end EndpointGroup

/-! ## The run -/

attribute [ext] Binding Session.Sdk

namespace Session

/-- **Sessions in step**: nothing but their notices tells them apart. -/
structure InStep (s s' : Session) : Prop where
  /-- The options are the same. -/
  options : s'.options = s.options
  /-- The ledgers are the same. -/
  ledger : s'.ledger = s.ledger
  /-- The names of functions are the same. -/
  functionNames : s'.functionNames = s.functionNames

/-- **A group with a repeated exchange is bound as the group is.** -/
theorem InStep.bind {s s' : Session} (h : s.InStep s') {e : Exchange} {g g' : EndpointGroup}
    (hg : g.Repeats e g') (hne : g.exchanges ≠ []) (hurl : ∀ d ∈ g.exchanges, d.Readable)
    (hrepeats : s.ledger.RepeatsIn e (g.registrations s.options)) :
    ∃ b t t', s.bind [] g = .ok (b, t) ∧ s'.bind [] g' = .ok (b, t') ∧ t.InStep t'
      ∧ t.ledger = s.ledger.run (g.registrations s.options) ∧ t.options = s.options := by
  obtain ⟨hmethod, hresource, first, rest, rest', hfirst, hfirst'⟩ := hg.exists_first hne
  obtain ⟨b, t, hbind, hledger, hoptions, hbinds⟩ := s.bind_spec hne hurl
  obtain ⟨b', t', hbind', hledger', hoptions', hbinds'⟩ := s'.bind_spec (g := g')
    (by rw [hfirst']; simp) fun d hd => hurl d ((hg.mem_iff d).mp hd)
  obtain ⟨u, hu⟩ := hurl first (by rw [hfirst]; exact List.mem_cons_self)
  obtain ⟨hat, hfunction⟩ := isAt_of_bind hbind hfirst hu
  obtain ⟨hat', hfunction'⟩ := isAt_of_bind hbind' hfirst' hu
  have hkey : g'.key = g.key := by rw [EndpointGroup.key, hmethod, hresource]; rfl
  rw [h.functionNames, hkey, hmethod, ← hfunction, Prod.mk.injEq] at hfunction'
  obtain ⟨hparams, hrequests, hresponses⟩ := hg.sameEffect hurl hrepeats
  rw [h.options, h.ledger] at hledger' hbinds'
  have hrun := hrequests.run_eq
  rw [← Ledger.run_append, ← Ledger.run_append] at hrun
  -- where the endpoint is comes from the first exchange, its types from the last answers
  have hb : b' = b := by
    refine Binding.ext hfunction'.1 (by rw [hat'.method, hat.method, hmethod])
      (by rw [hat'.origin, hat.origin]) (by rw [hat'.path, hat.path]) ?_ ?_ ?_
      (by rw [hat'.headers, hat.headers])
    · rw [hbinds'.params, hbinds.params, hparams]
    · rw [hbinds'.body, hbinds.body, hparams, hrequests.lastAnswer_eq]
    · rw [hbinds'.response, hbinds.response, hparams, hrun, hresponses.lastAnswer_eq]
  refine ⟨b, t, t', hbind, hb ▸ hbind', ⟨?_, ?_, hfunction'.2⟩, hledger, hoptions⟩
  · rw [hoptions', hoptions, h.options]
  · rw [hledger', hledger, EndpointGroup.registrations, EndpointGroup.registrations, hparams,
      Ledger.run_append, Ledger.run_append _ (g.params s.options ++ g.requests s.options), hrun,
      hresponses.run_eq]

/-- **Groups with a repeated exchange are bound as the groups are**, one
after the other. -/
theorem InStep.bindAll {e : Exchange} {gs gs' : List EndpointGroup}
    (hgs : List.Forall₂ (EndpointGroup.Repeats e) gs gs') {s s' : Session} (h : s.InStep s')
    (hne : ∀ g ∈ gs, g.exchanges ≠ []) (hurl : ∀ g ∈ gs, ∀ d ∈ g.exchanges, d.Readable)
    (hrepeats : s.ledger.RepeatsIn e (gs.flatMap (EndpointGroup.registrations s.options))) :
    ∃ bs t t', s.bindAll [] gs = .ok (bs, t) ∧ s'.bindAll [] gs' = .ok (bs, t') ∧ t.InStep t' := by
  induction hgs generalizing s s' with
  | nil => exact ⟨[], s, s', rfl, rfl, h⟩
  | @cons g g' gs gs' hg hgs ih =>
    rw [List.flatMap_cons] at hrepeats
    obtain ⟨b, t, t', hbind, hbind', hstep, hledger, hoptions⟩ :=
      h.bind hg (hne g List.mem_cons_self) (hurl g List.mem_cons_self) hrepeats.left
    obtain ⟨bs, u, u', hrest, hrest', hend⟩ := ih hstep
      (fun p hp => hne p (List.mem_cons_of_mem _ hp))
      (fun p hp => hurl p (List.mem_cons_of_mem _ hp))
      (by rw [hledger, hoptions]; exact hrepeats.right)
    exact ⟨b :: bs, u, u', bindAll_cons hbind hrest, bindAll_cons hbind' hrest', hend⟩

end Session

/-- **Recording an exchange twice** makes no difference to the definitions
and bindings that a run leads to, and none to the names it leaves: with
sharing on, and under a prefix that leaves the names of types in one
piece, if what the exchange registers can be mistaken for nothing else
under the name it is given and under the one it would be given next. -/
theorem generate_repeated {options : Options} (hshared : options.mergeTypes = true)
    (hwhole : options.KeepsNamesWhole) {version : Option String} {es es' : List Exchange}
    {e : Exchange}
    (h : ∀ before r behind, registrations options ⟨version, es ++ e :: es'⟩ = before ++ r :: behind →
      e.Registers r → ((Ledger.start options).run before).existing? r = none →
        ((Ledger.start options).run before).Unmistakable r
          ∧ (((Ledger.start options).run before).after r).Unmistakable r) :
    ∃ sdk s s', generate options ⟨version, es ++ e :: es'⟩ = .ok (sdk, s)
      ∧ generate options ⟨version, es ++ e :: e :: es'⟩ = .ok (sdk, s')
      ∧ s.fieldNames = s'.fieldNames ∧ s.functionNames = s'.functionNames := by
  obtain ⟨lead, hlead, hled⟩ := exists_blankLead hwhole
  have hrepeats : (Ledger.start options).RepeatsIn e
      (registrations options ⟨version, es ++ e :: es'⟩) := by
    intro before r behind hsplit hr
    have hall := hled ⟨version, es ++ e :: es'⟩
    rw [hsplit] at hall
    refine Ledger.repeats_of_unmistakable hlead ((Ledger.sound_start lead options).run
      fun q hq => hall q (List.mem_append_left _ hq)) ?_ (hall r (by simp)) (h before r behind hsplit hr)
    rw [Ledger.shared_run]
    exact hshared
  -- both runs bind their groups from the start, and stay in step
  have hgroups := wellGrouped_groupExchanges (es ++ e :: es')
  obtain ⟨sdk, s, hrun, hbind, htypes⟩ :=
    (Session.start options).exists_run_eq ⟨version, es ++ e :: es'⟩
  obtain ⟨sdk', s', hrun', hbind', htypes'⟩ :=
    (Session.start options).exists_run_eq ⟨version, es ++ e :: e :: es'⟩
  have hstart : (Session.start options).reset.InStep (Session.start options).reset := ⟨rfl, rfl, rfl⟩
  obtain ⟨_, _, _, hall, hall', hend⟩ := hstart.bindAll (repeats_groupExchanges es e es')
    hgroups.nonempty hgroups.readable hrepeats
  rw [hbind] at hall
  rw [hbind'] at hall'
  cases hall
  obtain ⟨hbindings, rfl⟩ := Prod.mk.inj (Except.ok.inj hall')
  have hsdk : sdk' = sdk := by
    refine Session.Sdk.ext ?_ hbindings
    rw [htypes', htypes]
    exact congrArg (fun l => l.types.entries) hend.ledger
  exact ⟨sdk, s, s', hrun, hsdk ▸ hrun', congrArg Ledger.names hend.ledger.symm,
    hend.functionNames.symm⟩

/-- An exchange with one object inside another. -/
def nested : Exchange := .received "https://h.io/a" "\x7b\"b\": \x7b\"c\": 1\x7d\x7d"

/-- What the exchange with one object inside another registers. -/
def nestedRegistration : Registration :=
  .body "AResponse" "\x7b\"b\": \x7b\"c\": 1\x7d\x7d" (some "application/json")

theorem unmistakable_nested :
    (Ledger.start Options.default).Unmistakable nestedRegistration
      ∧ ((Ledger.start Options.default).after nestedRegistration).Unmistakable nestedRegistration := by
  refine ⟨⟨?_, ?_⟩, ⟨?_, ?_⟩⟩
  · unfold Definition.Plain
    decide +kernel
  · unfold Layout.ToldApart
    decide +kernel
  · unfold Definition.Plain
    decide +kernel
  · unfold Layout.ToldApart
    decide +kernel

/-- The exchange with one object inside another may be recorded twice. -/
theorem generate_repeated_nested :
    Options.default.mergeTypes = true ∧ Options.default.KeepsNamesWhole
      ∧ registrations Options.default ⟨none, [nested]⟩ = [nestedRegistration]
      ∧ ∃ sdk s s', generate Options.default ⟨none, [nested]⟩ = .ok (sdk, s)
        ∧ generate Options.default ⟨none, [nested, nested]⟩ = .ok (sdk, s')
        ∧ s.fieldNames = s'.fieldNames ∧ s.functionNames = s'.functionNames := by
  have hwhole : Options.default.KeepsNamesWhole := Or.inl (by decide)
  have hregistrations : registrations Options.default ⟨none, [nested]⟩
      = [nestedRegistration] := by decide +kernel
  refine ⟨rfl, hwhole, hregistrations,
    @generate_repeated Options.default rfl hwhole none [] [] nested ?_⟩
  intro before r behind hsplit _ _
  obtain ⟨rfl, rfl, rfl⟩ : before = [] ∧ r = nestedRegistration ∧ behind = [] := by
    have hsingle := hregistrations.symm.trans hsplit
    cases before with
    | nil => simpa [eq_comm] using hsingle
    | cons q before => simp at hsingle
  exact unmistakable_nested

/-- An exchange whose one field is called like the type it leads to. -/
def eponymous : Exchange := .received "https://h.io/a" "\x7b\"AResponse\": 1\x7d"

/-- **Recording an exchange twice can give one type more**: a field that
is called like its type tells the two names of the type apart. -/
theorem types_repeated : ¬ ∀ (options : Options) (version : Option String)
    (es es' : List Exchange) (e : Exchange), options.mergeTypes = true →
      Options.acceptsPrefix options.typePrefix = true →
        ∃ sdk s s', generate options ⟨version, es ++ e :: es'⟩ = .ok (sdk, s)
          ∧ generate options ⟨version, es ++ e :: e :: es'⟩ = .ok (sdk, s') := by
  intro h
  obtain ⟨sdk, s, s', honce, htwice⟩ := h Options.default none [] [] eponymous rfl (by decide)
  have htypes : (generate Options.default ⟨none, [eponymous]⟩).map
      (fun p => p.1.types.map TypeEntry.name) = .ok ["AResponse"] := by decide +kernel
  have htypes' : (generate Options.default ⟨none, [eponymous, eponymous]⟩).map
      (fun p => p.1.types.map TypeEntry.name) = .ok ["AResponse", "AResponse1"] := by
    decide +kernel
  rw [List.nil_append] at honce htwice
  rw [honce] at htypes
  rw [htwice] at htypes'
  exact absurd (Except.ok.inj (htypes.symm.trans htypes')) (by decide)

end TypedTraffic
