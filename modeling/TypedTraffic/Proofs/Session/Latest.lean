import TypedTraffic.Proofs.Session.Declared

/-!
# A binding points at its last samples

Of several request bodies in a group the last one gives the type of the
body, and so it is with responses. The type is a name, and what the name
stands for is settled by the registry: a definition that is shared has
been registered under another name, perhaps long before.

At the end of a run the name still stands for a definition of the last
sample's fingerprint, whatever is registered after it
(`Ledger.standsFor_answer`, `pointsAt_run`). A group without a sample has
the type that stands for nothing known, and no other group has, since
every name that is registered ends in what the type is for
(`Ledger.Roled.run`).
-/

namespace TypedTraffic

open Naming

/-! ## Samples -/

/-- The text and the media type of the body of a request, if there is a
text. -/
def Exchange.requestSample? (e : Exchange) : Option (String × Option String) :=
  e.request.body.text.map fun text => (text, e.request.body.mimeType)

/-- The text and the media type of the body of a response, if it can be
decoded and is not empty. -/
def Exchange.responseSample? (e : Exchange) : Option (String × Option String) :=
  match e.response.body with
  | .error _ => none
  | .ok body => (nonempty? body.text).map fun text => (text, body.mimeType)

/-- The registrations of the samples in some exchanges. -/
def sampled (stem : String) (sample? : Exchange → Option (String × Option String))
    (es : List Exchange) : List Registration :=
  (es.filterMap sample?).map fun sample => .body stem sample.1 sample.2

theorem filterMap_requestRegistration? (stem : String) (es : List Exchange) :
    es.filterMap (Exchange.requestRegistration? stem)
      = sampled stem Exchange.requestSample? es := by
  rw [sampled, List.map_filterMap]
  refine List.filterMap_congr fun e _ => ?_
  rw [Exchange.requestRegistration?, Exchange.requestSample?]
  rcases e.request.body with ⟨text?, mime⟩
  cases text? <;> rfl

theorem filterMap_responseRegistration? (stem : String) (es : List Exchange) :
    es.filterMap (Exchange.responseRegistration? stem)
      = sampled stem Exchange.responseSample? es := by
  rw [sampled, List.map_filterMap]
  refine List.filterMap_congr fun e _ => ?_
  rw [Exchange.responseRegistration?, Exchange.responseSample?]
  cases e.response.body with
  | error cause => rfl
  | ok body =>
    simp only [Option.map_map]
    rfl

/-- **The last sample** of some exchanges, with those before its own:
those behind it have none. -/
def IsLastSample (sample? : Exchange → Option (String × Option String))
    (es earlier : List Exchange) (text : String) (mime : Option String) : Prop :=
  ∃ e later, es = earlier ++ e :: later ∧ sample? e = some (text, mime)
    ∧ ∀ e' ∈ later, sample? e' = none

section Samples

variable {sample? : Exchange → Option (String × Option String)} {es earlier : List Exchange}
  {text : String} {mime : Option String}

/-- The last sample is registered last. -/
theorem IsLastSample.sampled_eq (h : IsLastSample sample? es earlier text mime) (stem : String) :
    sampled stem sample? es = sampled stem sample? earlier ++ [.body stem text mime] := by
  obtain ⟨e, later, rfl, he, hlater⟩ := h
  have hnone : later.filterMap sample? = [] := List.filterMap_eq_nil_iff.mpr hlater
  rw [sampled, sampled, List.filterMap_append, List.filterMap_cons, he, hnone, List.map_append]
  rfl

/-- If not every exchange is without a sample, one has the last. -/
theorem exists_isLastSample (h : ¬ ∀ e ∈ es, sample? e = none) :
    ∃ earlier text mime, IsLastSample sample? es earlier text mime := by
  induction es with
  | nil => exact absurd (fun e he => absurd he List.not_mem_nil) h
  | cons e es ih =>
    by_cases hrest : ∀ e' ∈ es, sample? e' = none
    · cases he : sample? e with
      | none =>
        refine absurd (fun d hd => ?_) h
        rcases List.mem_cons.mp hd with rfl | hd
        · exact he
        · exact hrest d hd
      | some sample => exact ⟨[], sample.1, sample.2, e, es, rfl, he, hrest⟩
    · obtain ⟨earlier, text, mime, d, later, rfl, hd, hlater⟩ := ih hrest
      exact ⟨e :: earlier, text, mime, d, later, rfl, hd, hlater⟩

end Samples

/-! ## Names with a role -/

/-- A registration whose stem ends in a role. -/
def Registration.Roled (r : Registration) : Prop :=
  ∃ lead : String, ∃ role ∈ roles, r.stem = lead ++ role

/-- A name that ends in a role with digits behind it. -/
def HasRole (n : String) : Prop :=
  ∃ lead tail : String, ∃ role ∈ roles, n = lead ++ role ++ tail
    ∧ ∀ c ∈ tail.toList, c.isDigit = true

/-- The last character of a name with a role. -/
theorem HasRole.exists_last {n : String} (h : HasRole n) :
    ∃ cs c, n.toList = cs ++ [c] ∧ (c.isDigit = true ∨ c ∈ ['s', 't', 'e']) := by
  obtain ⟨lead, tail, role, hrole, rfl, hdigits⟩ := h
  rw [String.toList_append, String.toList_append]
  rcases List.eq_nil_or_concat' tail.toList with hnil | ⟨ds, d, hconcat⟩
  · rw [hnil, List.append_nil]
    simp only [roles, List.mem_cons, List.not_mem_nil, or_false] at hrole
    rcases hrole with rfl | rfl | rfl
    · exact ⟨lead.toList ++ "Param".toList, 's', by rw [List.append_assoc]; rfl, by decide⟩
    · exact ⟨lead.toList ++ "Reques".toList, 't', by rw [List.append_assoc]; rfl, by decide⟩
    · exact ⟨lead.toList ++ "Respons".toList, 'e', by rw [List.append_assoc]; rfl, by decide⟩
  · refine ⟨lead.toList ++ role.toList ++ ds, d, by rw [hconcat, ← List.append_assoc], Or.inl ?_⟩
    exact hdigits d (by rw [hconcat]; exact List.mem_append_right _ List.mem_cons_self)

/-- A name with a role is no name with another end. -/
theorem HasRole.ne {n m : String} (h : HasRole n) {cs : List Char} {c : Char}
    (hm : m.toList = cs ++ [c]) (hc : ¬ (c.isDigit = true ∨ c ∈ ['s', 't', 'e'])) : n ≠ m := by
  rintro rfl
  obtain ⟨ds, d, hn, hd⟩ := h.exists_last
  obtain ⟨-, hcd⟩ := List.append_inj' (hm.symm.trans hn) rfl
  rw [(List.cons.inj hcd).1] at hc
  exact hc hd

theorem HasRole.ne_noBody {n : String} (h : HasRole n) : id n ≠ noBody :=
  h.ne (show noBody.toList = "undefine".toList ++ ['d'] from rfl) (by decide)

theorem HasRole.responseOf_ne {n : String} (h : HasRole n) : responseOf n ≠ unknownResponse := by
  intro heq
  refine h.ne (show "unknown".toList = "unknow".toList ++ ['n'] from rfl) (by decide) ?_
  have hlist := congrArg String.toList heq
  rw [responseOf, String.toList_append, String.toList_append,
    show unknownResponse.toList = "ResponseBase<".toList ++ "unknown".toList ++ ">".toList from rfl,
    List.append_left_inj, List.append_right_inj] at hlist
  exact String.toList_inj.mp hlist

/-! ## What a name stands for -/

/-- **A name that stands for a definition**: one entry has the name, and
it has the fingerprint of the definition. -/
structure Session.Sdk.StandsFor (sdk : Session.Sdk) (n : String) (d : Definition) : Prop where
  /-- One entry has the name. -/
  defines : sdk.Defines n
  /-- What it holds has the fingerprint of the definition. -/
  fingerprint : ∀ e ∈ sdk.types, e.name = n →
    TypedTraffic.fingerprint e.definition = TypedTraffic.fingerprint d.text

/-- **The type of the last sample** in some exchanges: the one for nothing
known if there is no sample, else a name that stands for what the last
sample leads to. -/
structure Session.Sdk.Latest (sdk : Session.Sdk)
    (sample? : Exchange → Option (String × Option String))
    (definition : List Exchange → String → Option String → Definition) (unknown : String)
    (wrap : String → String) (es : List Exchange) (type : String) : Prop where
  /-- Nothing is known without a sample, and only then. -/
  none : type = unknown ↔ ∀ e ∈ es, sample? e = none
  /-- Else the last sample counts. What it leads to depends on the exchanges
  before its own. -/
  last : type ≠ unknown → ∃ earlier text mime n, IsLastSample sample? es earlier text mime
    ∧ type = wrap n ∧ sdk.StandsFor n (definition earlier text mime)

namespace Ledger

/-- Every entry has a name with a role. -/
def Roled (l : Ledger) : Prop := ∀ e ∈ l.types.entries, HasRole e.name

/-- **A registration gives a name with a role**, if its stem has one. -/
theorem Roled.after {l : Ledger} (h : l.Roled) {r : Registration} (hr : r.Roled) :
    (l.after r).Roled := by
  cases hexisting : l.existing? r with
  | some e =>
    rw [Roled, (after_of_existing hexisting).1]
    exact h
  | none =>
    rw [Roled, (after_of_new hexisting).1]
    intro e he
    rcases List.mem_append.mp he with he | he
    · exact h e he
    · obtain ⟨lead, role, hrole, hstem⟩ := hr
      obtain ⟨tail, htail, hdigits⟩ := l.candidate_eq r
      rw [List.mem_singleton.mp he]
      exact ⟨lead, tail, role, hrole, by rw [← hstem]; exact htail, hdigits⟩

section Roled

variable {l : Ledger} (h : l.Roled) {rs : List Registration}
  (hrs : ∀ r ∈ rs, r.Roled)

include h hrs

/-- **Every name that is registered has a role**, if the stems have. -/
theorem Roled.run : (l.run rs).Roled := by
  induction rs generalizing l with
  | nil => exact h
  | cons r rs ih =>
    exact ih (h.after (hrs r List.mem_cons_self)) fun q hq => hrs q (List.mem_cons_of_mem _ hq)

/-- **Nothing is known exactly if nothing is registered**: an answer is
made from a name with a role. -/
theorem Roled.lastAnswer_eq_iff {wrap : String → String} {unknown : String}
    (hwrap : ∀ n, HasRole n → wrap n ≠ unknown) :
    lastAnswer wrap l unknown rs = unknown ↔ rs = [] := by
  refine ⟨fun heq => ?_, fun heq => by rw [heq]; rfl⟩
  by_contra hne
  obtain ⟨earlier, r, rfl⟩ := (List.eq_nil_or_concat' rs).resolve_left hne
  rw [lastAnswer_append] at heq
  obtain ⟨e, he, hname, -⟩ := (l.run earlier).exists_entry_answer r
  refine hwrap _ ?_ heq
  rw [← hname]
  refine h.run hrs e ?_
  rw [run_append]
  exact he

end Roled

variable {start : Ledger} (hstart : start.types.entries = [])

include hstart

/-- Every entry keeps the fingerprint of its own text. -/
theorem fingerprint_of_mem {rs : List Registration} {e : TypeEntry}
    (h : e ∈ (start.run rs).types.entries) : e.fingerprint = fingerprint e.definition := by
  rcases exists_registration h with hmem | ⟨before, r, behind, -, -, rfl⟩
  · rw [hstart] at hmem
    exact absurd hmem List.not_mem_nil
  · rfl

/-- **The answer to a registration stands for its definition**, whatever is
registered after it. -/
theorem standsFor_answer {sdk : Session.Sdk} {before behind : List Registration}
    {r : Registration}
    (htypes : sdk.types = (start.run (before ++ r :: behind)).types.entries) :
    sdk.StandsFor ((start.run before).answer r) ((start.run before).definition r) := by
  have hnodup : (sdk.types.map TypeEntry.name).Nodup := by
    rw [htypes]
    exact nodup_of_fresh (start.fresh_run _ (by rw [hstart]; exact List.Pairwise.nil))
  obtain ⟨e, he, hname, hfingerprint⟩ := (start.run before).exists_entry_answer r
  -- the entry is still there at the end
  have hmem : e ∈ sdk.types := by
    rw [htypes, run_append]
    exact (((start.run before).after r).prefix_run behind).subset he
  refine ⟨?_, fun e' he' hname' => ?_⟩
  · rw [← hname]
    exact List.count_eq_one_of_mem hnodup (List.mem_map_of_mem hmem)
  · have heq : e' = e := List.inj_on_of_nodup_map hnodup he' hmem (hname'.trans hname.symm)
    rw [heq, ← hfingerprint]
    rw [htypes] at hmem
    exact (fingerprint_of_mem hstart hmem).symm

/-- **The last answer is the type of the last sample**, whatever is
registered before and after. -/
theorem latest_lastAnswer {sdk : Session.Sdk} {before behind : List Registration}
    {stem : String} {sample? : Exchange → Option (String × Option String)} {es : List Exchange}
    {definition : List Exchange → String → Option String → Definition}
    {unknown : String} {wrap : String → String}
    (htypes : sdk.types
      = (start.run (before ++ sampled stem sample? es ++ behind)).types.entries)
    (hroles : ∀ r ∈ before ++ sampled stem sample? es ++ behind, r.Roled)
    (hwrap : ∀ n, HasRole n → wrap n ≠ unknown)
    (hdefinition : ∀ earlier text mime, definition earlier text mime
      = (start.run (before ++ sampled stem sample? earlier)).definition (.body stem text mime)) :
    sdk.Latest sample? definition unknown wrap es
      (lastAnswer wrap (start.run before) unknown (sampled stem sample? es)) := by
  have hroled : (start.run before).Roled := by
    refine Roled.run (fun e he => absurd he (by rw [hstart]; exact List.not_mem_nil)) fun r hr => ?_
    exact hroles r (by simp [hr])
  have hnone : lastAnswer wrap (start.run before) unknown (sampled stem sample? es) = unknown
      ↔ ∀ e ∈ es, sample? e = none := by
    rw [hroled.lastAnswer_eq_iff (fun r hr => hroles r (by simp [hr])) hwrap, sampled,
      List.map_eq_nil_iff, List.filterMap_eq_nil_iff]
  refine ⟨hnone, fun hne => ?_⟩
  obtain ⟨earlier, text, mime, h⟩ := exists_isLastSample fun hall => hne (hnone.mpr hall)
  rw [h.sampled_eq stem, List.append_assoc, List.append_assoc, List.singleton_append,
    ← List.append_assoc] at htypes
  have hstands := standsFor_answer hstart htypes
  rw [← hdefinition] at hstands
  refine ⟨earlier, text, mime, _, h, ?_, hstands⟩
  rw [h.sampled_eq stem, lastAnswer_append, ← run_append]
  rfl

end Ledger

/-! ## The sessions of one binding -/

namespace Session

/-- The definition that a body leads to in a session. -/
def bodyDefinition (s : Session) (stem text : String) (mime : Option String) : Definition :=
  (Sample.infer (s.types.available (s.bodyStem stem)) (.text text) mime s.fieldNames).definition

/-- The session that is left by a pass over some exchanges, which nothing
stops. -/
def left (s : Session) : Except Unprinted (String × Session) → Session
  | .ok (_, s') => s'
  | .error _ => s

/-- The session after the request bodies of some exchanges of a group. -/
def afterRequests (s : Session) (g : EndpointGroup) (es : List Exchange) : Session :=
  s.left (s.bodyType [] (g.stem s.options ++ "Request") es)

/-- The session after all request bodies of a group and the responses of
some of its exchanges. -/
def afterResponses (s : Session) (g : EndpointGroup) (es : List Exchange) : Session :=
  s.left ((s.afterRequests g g.exchanges).responseType [] (g.stem s.options ++ "Response") es)

/-- The definition of a body is that of its registration. -/
theorem bodyDefinition_eq (s : Session) (stem text : String) (mime : Option String) :
    s.bodyDefinition stem text mime = s.ledger.definition (.body stem text mime) := rfl

theorem ledger_afterRequests (s : Session) (g : EndpointGroup) (es : List Exchange) :
    (s.afterRequests g es).ledger
      = s.ledger.run (sampled (g.stem s.options ++ "Request") Exchange.requestSample? es) := by
  obtain ⟨type, s', hbody⟩ := s.exists_bodyType_eq (g.stem s.options ++ "Request") es
  obtain ⟨-, notices, rfl⟩ := bodyType_spec hbody
  rw [← filterMap_requestRegistration?, afterRequests, hbody]
  rfl

theorem ledger_afterResponses (s : Session) (g : EndpointGroup) (es : List Exchange) :
    (s.afterResponses g es).ledger
      = s.ledger.run
        (sampled (g.stem s.options ++ "Request") Exchange.requestSample? g.exchanges
          ++ sampled (g.stem s.options ++ "Response") Exchange.responseSample? es) := by
  obtain ⟨type, s', hresponse⟩ :=
    (s.afterRequests g g.exchanges).exists_responseType_eq (g.stem s.options ++ "Response") es
  obtain ⟨-, notices, rfl⟩ := responseType_spec hresponse
  rw [Ledger.run_append, ← ledger_afterRequests, ← filterMap_responseRegistration?,
    afterResponses, hresponse]
  rfl

end Session

/-- **A binding that points at the last samples** of its group, whose
bodies are registered in the session. -/
structure Binding.PointsAt (b : Binding) (sdk : Session.Sdk) (s : Session) (g : EndpointGroup) :
    Prop where
  /-- The type of the request body is that of the last one. -/
  body : sdk.Latest Exchange.requestSample?
    (fun earlier => (s.afterRequests g earlier).bodyDefinition (g.stem s.options ++ "Request"))
    noBody id g.exchanges b.bodyType
  /-- The type of the response is that of the last one. -/
  response : sdk.Latest Exchange.responseSample?
    (fun earlier => (s.afterResponses g earlier).bodyDefinition (g.stem s.options ++ "Response"))
    unknownResponse responseOf g.exchanges b.responseType

/-- **A binding points at the last samples of its group**, whatever is
registered before and after. -/
theorem Ledger.pointsAt_of_bind {start : Ledger} (hstart : start.types.entries = [])
    {s₀ s₂ : Session} {g : EndpointGroup} {b : Binding} {sdk : Session.Sdk}
    {before behind : List Registration} (hbind : s₀.bind [] g = .ok (b, s₂))
    (hurl : ∀ e ∈ g.exchanges, e.Readable) (hledger : s₀.ledger = start.run before)
    (htypes : sdk.types
      = (start.run (before ++ g.registrations s₀.options ++ behind)).types.entries)
    (hroles : ∀ r ∈ before ++ g.registrations s₀.options ++ behind, r.Roled) :
    ∃ s₁, s₀.registerParams (g.stem s₀.options ++ "Params") g.exchanges = .ok (b.paramsType, s₁)
      ∧ b.PointsAt sdk s₁ g := by
  obtain ⟨_, _, s₁, _, _, hpasses⟩ := Session.bind_eq_ok_iff.mp hbind
  have hparams := hpasses.params
  obtain ⟨-, -, hbinds⟩ := Session.binds_of_bind hbind hurl
  have hparams' := s₀.registerParams_eq (g.stem s₀.options ++ "Params") hurl
  obtain ⟨-, rfl⟩ := Prod.mk.inj (Except.ok.inj (hparams.symm.trans hparams'))
  have hledger₁ : ∀ rs, start.run (before ++ g.params s₀.options ++ rs)
      = (s₀.registered (g.params s₀.options) []).ledger.run rs := fun rs => by
    rw [run_append, run_append, Session.ledger_registered, hledger]
  have hrequests : g.requests s₀.options
      = sampled (g.stem s₀.options ++ "Request") Exchange.requestSample? g.exchanges :=
    filterMap_requestRegistration? _ _
  have hresponses : g.responses s₀.options
      = sampled (g.stem s₀.options ++ "Response") Exchange.responseSample? g.exchanges :=
    filterMap_responseRegistration? _ _
  rw [EndpointGroup.registrations, hrequests, hresponses] at htypes hroles
  rw [← List.append_assoc before, ← List.append_assoc before] at htypes hroles
  refine ⟨_, hparams, ?_, ?_⟩
  · rw [List.append_assoc _ _ behind] at htypes hroles
    rw [hbinds.body, hledger, ← run_append, hrequests]
    refine latest_lastAnswer hstart htypes hroles (fun n hn => hn.ne_noBody)
      fun earlier text mime => ?_
    rw [Session.bodyDefinition_eq, Session.ledger_afterRequests, hledger₁]
    rfl
  · rw [hbinds.response, hledger, ← run_append, hrequests, hresponses, ← List.append_assoc]
    refine latest_lastAnswer hstart htypes hroles (fun n hn => hn.responseOf_ne)
      fun earlier text mime => ?_
    rw [Session.bodyDefinition_eq, Session.ledger_afterResponses, List.append_assoc, hledger₁]
    rfl

/-- **Every binding of a run points at the last samples of its group**, at
the end of the run and from whatever session it starts. -/
theorem pointsAt_run (s : Session) (capture : Capture) :
    ∃ sdk final, s.run capture = .ok (sdk, final)
    ∧ ∀ before g behind, groupExchanges capture.exchanges = before ++ g :: behind →
      ∃ bs b bs' s₀ s₁ s₂, sdk.bindings = bs ++ b :: bs'
        ∧ s.reset.bindAll [] before = .ok (bs, s₀) ∧ s₀.bind [] g = .ok (b, s₂)
        ∧ s₀.registerParams (g.stem s₀.options ++ "Params") g.exchanges = .ok (b.paramsType, s₁)
        ∧ b.PointsAt sdk s₁ g := by
  have hgroups := wellGrouped_groupExchanges capture.exchanges
  obtain ⟨sdk, final, hrun, hbindAll, htypes⟩ := s.exists_run_eq capture
  obtain ⟨_, _, hbindAll', hledger, -, -⟩ :=
    s.reset.bindAll_spec hgroups.nonempty hgroups.readable
  rw [hbindAll] at hbindAll'
  cases hbindAll'
  refine ⟨sdk, final, hrun, fun before g behind hsplit => ?_⟩
  rw [hsplit] at hbindAll hledger
  obtain ⟨bs, b, bs', s₀, s₂, hbindings, hbefore, hbind, -⟩ :=
    Session.exists_of_bindAll_append hbindAll
  -- the session in which the group is bound
  have hmem : ∀ p ∈ before, p ∈ groupExchanges capture.exchanges := fun p hp => by
    rw [hsplit]
    exact List.mem_append_left _ hp
  obtain ⟨_, _, hbefore', hledger₀, hoptions₀, -⟩ := s.reset.bindAll_spec
    (fun p hp => hgroups.nonempty p (hmem p hp)) fun p hp => hgroups.readable p (hmem p hp)
  rw [hbefore] at hbefore'
  cases hbefore'
  -- what is registered before the group, for it, and behind it
  have hall : (before ++ g :: behind).flatMap (EndpointGroup.registrations s.reset.options)
      = before.flatMap (EndpointGroup.registrations s.reset.options)
        ++ g.registrations s₀.options
        ++ behind.flatMap (EndpointGroup.registrations s.reset.options) := by
    rw [hoptions₀, List.flatMap_append, List.flatMap_cons, List.append_assoc]
  rw [hall] at hledger
  obtain ⟨s₁, hparams, hpoints⟩ := Ledger.pointsAt_of_bind rfl hbind
    (hgroups.readable g (by rw [hsplit]; simp)) hledger₀
    (htypes.trans (congrArg (fun l => l.types.entries) hledger)) fun r hr => by
      rw [← hall] at hr
      obtain ⟨p, -, hp⟩ := List.mem_flatMap.mp hr
      exact ⟨_, p.exists_role hp⟩
  exact ⟨bs, b, bs', s₀, s₁, s₂, hbindings, hbefore, hbind, hparams, hpoints⟩

end TypedTraffic
