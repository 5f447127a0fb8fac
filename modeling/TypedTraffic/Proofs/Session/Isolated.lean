import TypedTraffic.Proofs.Session.Completed

/-!
# A response that cannot be decoded stands alone

A content that says it is base 64 and decodes to no text has a **fault**
(`Content.fault?`). A capture without the contents that have one is bound
as the capture is: binding goes through the same sessions, but for the
notices of what is passed over (`Session.bindAll_withoutFaults`).

So nothing else of a run depends on such a response, as far as the run can
tell of it (`run_withoutFaults`). Definitions, bindings and all names are the
same without it, and the notices that are missing are one for each exchange
with an absolute URL whose response has a fault, in the order of the
groups. If one of them cannot be printed, the run stops with the response and
returns without it (`not_runWith_withoutFaults_untold`).
-/

namespace TypedTraffic

open Naming

/-! ## Contents that cannot be decoded -/

/-- **Why a content cannot be decoded**, if it says that it is base 64 and
decodes to no text. -/
def Content.fault? (c : Content) : Option DecodingError :=
  if c.encoding = some "base64" then
    match c.text with
    | none => none
    | some text =>
      match decodedText text with
      | .error cause => some cause
      | .ok _ => none
  else none

namespace Response

/-- Why the content of a response cannot be decoded. -/
def fault? (r : Response) : Option DecodingError := r.content.bind Content.fault?

/-- **The response without a content that cannot be decoded.** -/
def withoutFault (r : Response) : Response :=
  { r with content := if r.fault?.isSome then none else r.content }

/-- The body of a response is an error exactly if its content cannot be
decoded. -/
theorem body_cases (r : Response) :
    (∃ cause, r.fault? = some cause ∧ r.body = .error cause)
      ∨ r.fault? = none ∧ ∃ b, r.body = .ok b := by
  rcases r with ⟨status, headers, content⟩
  unfold fault? body
  cases content with
  | none => exact Or.inr ⟨rfl, _, rfl⟩
  | some c =>
    rcases c with ⟨declared, text, encoding⟩
    simp only [Option.bind_some, Content.fault?, Content.decoded]
    cases text with
    | none => exact Or.inr ⟨by simp, _, rfl⟩
    | some text =>
      by_cases hempty : text = ""
      · -- an empty text is decoded, though it counts as none
        subst hempty
        refine Or.inr ⟨?_, Body.none, rfl⟩
        split <;> rfl
      · have hnonempty : nonempty? (some text) = some text := by
          simp [nonempty?, hempty]
        simp only [hnonempty]
        split
        · cases decodedText text with
          | error cause => exact Or.inl ⟨cause, rfl, rfl⟩
          | ok decoded => exact Or.inr ⟨rfl, _, rfl⟩
        · exact Or.inr ⟨rfl, _, rfl⟩

theorem withoutFault_of_none {r : Response} (h : r.fault? = none) : r.withoutFault = r := by
  rw [withoutFault, h]
  rfl

theorem body_withoutFault_of_some {r : Response} {cause : DecodingError}
    (h : r.fault? = some cause) : r.withoutFault.body = .ok Body.none := by
  rw [withoutFault, h]
  rfl

end Response

/-- **The exchange without a response that cannot be decoded.** -/
def Exchange.withoutFault (e : Exchange) : Exchange :=
  { e with response := e.response.withoutFault }

/-- **The capture without responses that cannot be decoded.** -/
def Capture.withoutFaults (capture : Capture) : Capture :=
  { capture with exchanges := capture.exchanges.map Exchange.withoutFault }

/-- The group without responses that cannot be decoded. -/
def EndpointGroup.withoutFaults (g : EndpointGroup) : EndpointGroup :=
  { g with exchanges := g.exchanges.map Exchange.withoutFault }

/-- The notice of a response that cannot be decoded. -/
theorem Exchange.undecodable?_eq (e : Exchange) : e.undecodable?
    = e.response.fault?.map fun cause =>
      Notice.responsePassedOver e.request.url (.undecodable cause) := by
  unfold undecodable?
  rcases e.response.body_cases with ⟨cause, hfault, hbody⟩ | ⟨hfault, b, hbody⟩
  · rw [hfault, hbody]
    rfl
  · rw [hfault, hbody]
    rfl

/-! ## Groups -/

@[simp] theorem Exchange.request_withoutFault (e : Exchange) :
    e.withoutFault.request = e.request := rfl

@[simp] theorem Exchange.endpoint?_withoutFault (e : Exchange) :
    e.withoutFault.endpoint? = e.endpoint? := by
  simp only [endpoint?, absoluteUrl?, request_withoutFault]

@[simp] theorem Exchange.key?_withoutFault (e : Exchange) : e.withoutFault.key? = e.key? := by
  simp only [key?, endpoint?_withoutFault]

theorem keysOf_withoutFault (es : List Exchange) :
    keysOf (es.map Exchange.withoutFault) = keysOf es := by
  have hkeys : Exchange.key? ∘ Exchange.withoutFault = Exchange.key? :=
    funext Exchange.key?_withoutFault
  rw [keysOf, keysOf, List.filterMap_map, hkeys]

theorem withKey_withoutFault (key : String) (es : List Exchange) :
    withKey key (es.map Exchange.withoutFault) = (withKey key es).map Exchange.withoutFault := by
  simp [withKey, List.filter_map, Function.comp_def]

theorem EndpointGroup.ofExchanges?_withoutFault (es : List Exchange) :
    ofExchanges? (es.map Exchange.withoutFault)
      = (ofExchanges? es).map EndpointGroup.withoutFaults := by
  cases es with
  | nil => rfl
  | cons e es =>
    rw [List.map_cons, ofExchanges?, ofExchanges?, Option.map_map, Exchange.endpoint?_withoutFault]
    rfl

/-- **The groups without responses that cannot be decoded**: the responses
say nothing of the endpoint. -/
theorem groupExchanges_withoutFault (es : List Exchange) :
    groupExchanges (es.map Exchange.withoutFault)
      = (groupExchanges es).map EndpointGroup.withoutFaults := by
  rw [groupExchanges_eq, groupExchanges_eq, keysOf_withoutFault, List.map_filterMap]
  refine List.filterMap_congr fun key _ => ?_
  rw [withKey_withoutFault, EndpointGroup.ofExchanges?_withoutFault]

theorem queryParameters_withoutFault (es : List Exchange) :
    queryParameters (es.map Exchange.withoutFault) = queryParameters es := by
  have hpairs : queryPairs (es.map Exchange.withoutFault) = queryPairs es := by
    induction es with
    | nil => rfl
    | cons e es ih =>
      rw [List.map_cons, queryPairs, queryPairs, ih, Exchange.request_withoutFault]
  rw [queryParameters, queryParameters, hpairs]

/-! ## Sessions -/

namespace Session

/-- **The session without the notices of what is passed over.** -/
def quiet (s : Session) : Session :=
  { s with notices := s.notices.filter fun n => !n.isPassedOver }

theorem quiet_registered (s : Session) (rs : List Registration) (notices : List Notice) :
    (s.registered rs notices).quiet
      = s.quiet.registered rs (notices.filter fun n => !n.isPassedOver) := by
  rw [quiet, notices_registered, List.filter_append]
  rfl

@[simp] theorem ledger_quiet (s : Session) : s.quiet.ledger = s.ledger := rfl

variable {s s' : Session}

/-- **A body is registered** whatever has been passed over. -/
theorem registerBody_quiet (s : Session) (stem text : String) (mime : Option String) :
    s.quiet.registerBody [] stem text mime
      = .ok (.ok (s.ledger.answer (.body stem text mime)),
          (s.registered [.body stem text mime] (s.sampleNotice? stem text mime).toList).quiet) := by
  -- the notice of a sample is there in either case
  have hkept : (s.sampleNotice? stem text mime).toList.filter (fun n => !n.isPassedOver)
      = (s.sampleNotice? stem text mime).toList := by
    refine List.filter_eq_self.mpr fun n hn => ?_
    rw [s.isPassedOver_sampleNotice? stem text mime n (Option.mem_toList.mp hn)]
    rfl
  rw [quiet_registered, hkept]
  exact s.quiet.registerBody_nil stem text mime

theorem requestStep_quiet {stem type type' : String} {e : Exchange}
    (h : requestStep [] stem s type e = .ok (type', s')) :
    requestStep [] stem s.quiet type e.withoutFault = .ok (type', s'.quiet) := by
  rw [requestStep_eq] at h ⊢
  rw [Exchange.request_withoutFault]
  rcases hbody : e.request.body with ⟨text?, mime⟩
  cases text? with
  | none =>
    simp only [hbody] at h ⊢
    cases h
    rfl
  | some text =>
    simp only [hbody, registerBody_nil] at h
    cases h
    simp only [registerBody_quiet, ledger_quiet]

/-- **A response** that cannot be decoded leaves a notice, and nothing is there
to pass over without it. -/
theorem responseStep_quiet {stem type type' : String} {e : Exchange}
    (h : responseStep [] stem s type e = .ok (type', s')) :
    responseStep [] stem s.quiet type e.withoutFault = .ok (type', s'.quiet) := by
  have hresponse : e.withoutFault.response = e.response.withoutFault := rfl
  rw [responseStep_eq] at h ⊢
  rw [hresponse]
  rcases e.response.body_cases with ⟨cause, hfault, hbody⟩ | ⟨hfault, b, hbody⟩
  · rw [Response.body_withoutFault_of_some hfault]
    simp only [hbody] at h
    split at h
    · cases h
    · rename_i hnote
      cases h
      rw [note_spec hnote, quiet_registered]
      simp only [Option.toList_some, List.filter_cons, Notice.isPassedOver, Bool.not_true,
        Bool.false_eq_true, if_false, List.filter_nil, registered_nil]
      rfl
  · rw [Response.withoutFault_of_none hfault]
    rcases b with ⟨text?, mime⟩
    simp only [hbody] at h ⊢
    cases hnonempty : nonempty? text? with
    | none =>
      simp only [hnonempty] at h ⊢
      cases h
      rfl
    | some text =>
      simp only [hnonempty, registerBody_nil] at h
      cases h
      simp only [registerBody_quiet, ledger_quiet]

/-- **Some exchanges** are as without what cannot be decoded, if each of them
is. -/
theorem typeAfter_quiet {step : TypeStep}
    (hstep : ∀ ⦃s s' : Session⦄ ⦃type type' : String⦄ ⦃e : Exchange⦄,
      step s type e = .ok (type', s') → step s.quiet type e.withoutFault = .ok (type', s'.quiet))
    {type type' : String} {es : List Exchange} (h : typeAfter step s type es = .ok (type', s')) :
    typeAfter step s.quiet type (es.map Exchange.withoutFault) = .ok (type', s'.quiet) := by
  induction es generalizing s type with
  | nil =>
    cases h
    rfl
  | cons e es ih =>
    rw [typeAfter] at h
    split at h
    · cases h
    · rename_i hfirst
      rw [List.map_cons, typeAfter, hstep hfirst]
      exact ih h

theorem register_quiet (s : Session) (name definition : String) :
    s.quiet.register name definition
      = (s.register name definition).map (Prod.map id quiet) := by
  unfold register
  have htypes : s.quiet.types = s.types := rfl
  rw [htypes]
  cases s.types.register name definition <;> rfl

/-- **The query parameters are registered** whatever has been passed
over. -/
theorem registerParams_quiet (s : Session) (stem : String) (es : List Exchange) :
    s.quiet.registerParams stem (es.map Exchange.withoutFault)
      = (s.registerParams stem es).map (Prod.map id quiet) := by
  unfold registerParams
  rw [queryParameters_withoutFault]
  cases queryParameters es with
  | error cause => rfl
  | ok parameters =>
    cases parameters with
    | nil => rfl
    | cons p ps =>
      have hregister := register_quiet
        { s with fieldNames := (paramFields s.fieldNames ((p :: ps).map Prod.fst)).2 }
        (s.types.available stem)
        (Interface.text ⟨s.types.available stem,
          (paramFields s.fieldNames ((p :: ps).map Prod.fst)).1⟩)
      simp only [quiet] at hregister ⊢
      simp only [hregister]
      cases Session.register _ (s.types.available stem) _ <;> rfl

/-- **A group is bound** without the responses that cannot be decoded as it
is with them. -/
theorem bind_withoutFaults {g : EndpointGroup} {b : Binding}
    (h : s.bind [] g = .ok (b, s')) :
    s.quiet.bind [] g.withoutFaults = .ok (b, s'.quiet) := by
  obtain ⟨first, u, s₁, s₂, s₃, hpasses⟩ := bind_eq_ok_iff.mp h
  have hparams := registerParams_quiet s (g.stem s.options ++ "Params") g.exchanges
  rw [hpasses.params] at hparams
  rw [hpasses.left]
  refine bind_eq_ok_iff.mpr ⟨first.withoutFault, u, s₁.quiet, s₂.quiet, s₃.quiet, ?_,
    hpasses.url, hparams, typeAfter_quiet (fun _ _ _ _ _ h => requestStep_quiet h) hpasses.requests,
    typeAfter_quiet (fun _ _ _ _ _ h => responseStep_quiet h) hpasses.responses,
    hpasses.binding, rfl⟩
  rw [EndpointGroup.withoutFaults, List.head?_map, hpasses.head]
  rfl

/-- **Several groups are bound** without the responses that cannot be
decoded as they are with them. -/
theorem bindAll_withoutFaults {gs : List EndpointGroup} {bs : List Binding}
    (h : s.bindAll [] gs = .ok (bs, s')) :
    s.quiet.bindAll [] (gs.map EndpointGroup.withoutFaults) = .ok (bs, s'.quiet) := by
  induction gs generalizing s bs with
  | nil =>
    cases h
    rfl
  | cons g gs ih =>
    obtain ⟨b, bs', s₁, rfl, hbind, hrest⟩ := exists_of_bindAll_cons h
    exact bindAll_cons (bind_withoutFaults hbind) (ih hrest)

/-- **A run without what cannot be decoded** ends as the run does where every
notice can be printed, but for the notices that are missing. -/
theorem run_withoutFaults_eq {sdk : Sdk} {final : Session} {capture : Capture}
    (h : s.run capture = .ok (sdk, final)) :
    s.run capture.withoutFaults = .ok (sdk, final.quiet) := by
  obtain ⟨sdk', final', hrun, hbind, htypes⟩ := s.exists_run_eq capture
  cases h.symm.trans hrun
  have hgroups : groupExchanges capture.withoutFaults.exchanges
      = (groupExchanges capture.exchanges).map EndpointGroup.withoutFaults :=
    groupExchanges_withoutFault capture.exchanges
  have hwithout := bindAll_withoutFaults hbind
  rw [← hgroups] at hwithout
  -- a run starts without notices
  have hstart : s.reset.quiet = s.reset := rfl
  have hsdk : (⟨final.types.entries, sdk.bindings⟩ : Sdk) = sdk := by rw [← htypes]
  rw [hstart] at hwithout
  unfold run runWith
  simp only [groupFault?_groupExchanges, hwithout]
  exact congrArg (fun sdk => Except.ok (sdk, final.quiet)) hsdk

end Session

theorem Capture.grouped_withoutFaults (capture : Capture) :
    capture.withoutFaults.grouped = capture.grouped.map Exchange.withoutFault := by
  rw [grouped, grouped, withoutFaults, groupExchanges_withoutFault, List.flatMap_map,
    List.map_flatMap]
  rfl

/-- The recording without responses that cannot be decoded. -/
def Recording.withoutFaults (recording : Recording) : Recording :=
  { recording with capture := recording.capture.withoutFaults }

/-- Of what is not there to be decoded a run can tell. -/
theorem Exchange.not_untold_withoutFault (standIns : Text.StandIns) (e : Exchange) :
    ¬ e.withoutFault.Untold standIns := by
  rintro ⟨⟨cause, hbody⟩, -⟩
  have hresponse : e.response.withoutFault.body = .error cause := hbody
  rcases e.response.body_cases with ⟨other, hfault, -⟩ | ⟨hfault, b, hok⟩
  · rw [Response.body_withoutFault_of_some hfault] at hresponse
    cases hresponse
  · rw [Response.withoutFault_of_none hfault, hok] at hresponse
    cases hresponse

/-- **A session in which the responses of a recording that cannot be decoded
stand alone**: what the run comes to, where every notice can be printed, does
not depend on them. -/
structure Session.Isolates (s : Session) (recording : Recording) (sdk : Sdk) (final : Session) :
    Prop where
  /-- The run where every notice can be printed. -/
  printed : s.run recording.capture = .ok (sdk, final)
  /-- Without the responses that cannot be decoded the run ends with the same
  definitions, bindings and names, and only the notices that they are passed
  over are missing. -/
  without : s.runWith recording.standIns recording.capture.withoutFaults
    = .ok (sdk, { final with notices := final.notices.filter fun n => !n.isPassedOver })
  /-- With them the run ends so as well, if it can tell of each of them. -/
  told : (∀ e ∈ recording.capture.grouped, ¬ e.Untold recording.standIns) →
    s.runWith recording.standIns recording.capture = .ok (sdk, final)
  /-- It stops if it cannot. -/
  untold : (∃ e ∈ recording.capture.grouped, e.Untold recording.standIns) →
    ∃ u, s.runWith recording.standIns recording.capture = .error (.binding (.unprinted u))
  /-- There is one notice for each of them, in the order of the groups. -/
  notices : final.notices.filter Notice.isPassedOver = recording.capture.grouped.filterMap (fun e =>
    e.response.fault?.map fun cause =>
      Notice.responsePassedOver e.request.url (.undecodable cause))
  /-- The groups hold the exchanges with an absolute URL. -/
  grouped : recording.capture.grouped.Perm
    (recording.capture.exchanges.filter fun e => e.absoluteUrl?.isSome)

/-- **A response that cannot be decoded stands alone**, as far as the run can
tell of it. A run, from whatever session it starts, ends with the same
definitions, bindings and names without such responses. What is missing are
the notices that they are passed over. -/
theorem run_withoutFaults {s : Session} (hs : Options.acceptsPrefix s.options.typePrefix = true)
    (recording : Recording) : ∃ sdk final, s.Isolates recording sdk final := by
  obtain ⟨sdk, final, hrun, hpassed, htold, hstop⟩ := Session.runWith_spec hs recording
  obtain ⟨_, _, hrun', -, htold', -⟩ := Session.runWith_spec hs recording.withoutFaults
  cases hrun'.symm.trans (Session.run_withoutFaults_eq hrun)
  refine ⟨sdk, final, hrun, htold' fun e he => ?_, htold, ?_, ?_, perm_groupExchanges _⟩
  · obtain ⟨e, -, rfl⟩ := List.mem_map.mp
      (recording.capture.grouped_withoutFaults ▸ he : e ∈ recording.capture.grouped.map _)
    exact e.not_untold_withoutFault _
  · classical
    intro hexists
    -- the run stops at the first of them
    have hsome : (recording.capture.grouped.find? fun e : Exchange =>
        decide (e.Untold recording.standIns)).isSome = true := by
      rw [List.find?_isSome]
      simpa using hexists
    obtain ⟨e, hfirst⟩ := Option.isSome_iff_exists.mp hsome
    obtain ⟨huntold, earlier, later, hsplit, hearlier⟩ := List.find?_eq_some_iff_append.mp hfirst
    obtain ⟨u, hu, -⟩ := hstop earlier e later hsplit
      (fun e' he' => by simpa using hearlier e' he') (of_decide_eq_true huntold)
    exact ⟨u, hu⟩
  · simp only [← Exchange.undecodable?_eq]
    exact hpassed

/-- The response of the recording stands alone, though the run stops. -/
theorem run_withoutFaults_untold : Options.acceptsPrefix Options.default.typePrefix = true
    ∧ ∃ sdk final, (Session.start Options.default).Isolates untold sdk final :=
  ⟨by decide, run_withoutFaults (by decide) untold⟩

/-- **A run may depend on a response that cannot be decoded**: it stops with it,
and returns without it. -/
theorem not_runWith_withoutFaults_untold : ¬ ∀ (s : Session) (recording : Recording),
    Options.acceptsPrefix s.options.typePrefix = true →
    (s.runWith recording.standIns recording.capture).map Prod.fst
      = (s.runWith recording.standIns recording.capture.withoutFaults).map Prod.fst := by
  intro h
  have hequal := h (Session.start Options.default) untold (by decide)
  have hstops : ((Session.start Options.default).runWith untold.standIns untold.capture).isOk
      = false := by decide +kernel
  have hreturns : ((Session.start Options.default).runWith untold.standIns
      untold.capture.withoutFaults).isOk = true := by decide +kernel
  have hisOk : ∀ x : Except Session.RunError (Session.Sdk × Session),
      (x.map Prod.fst).isOk = x.isOk := fun x => by cases x <;> rfl
  rw [← hisOk, hequal, hisOk, hreturns] at hstops
  cases hstops

end TypedTraffic
