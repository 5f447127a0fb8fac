import TypedTraffic.Proofs.Endpoint.Grouped
import TypedTraffic.Proofs.Session.Ledger

/-!
# A run is a sequence of registrations

Binding an endpoint registers its query parameters, then its request
bodies, then its responses (`EndpointGroup.registrations`); the types of
the binding are the last answers (`bind_spec`). A run over a capture
always ends, and the ledger at its end is that of the registrations of
all groups, one after the other (`exists_generate_eq`).
-/

namespace TypedTraffic

open Naming

/-! ## Registrations -/

/-- The registration of query parameters, if there are any. -/
def paramsRegistrations (stem : String) (exchanges : List Exchange) : List Registration :=
  match queryParameters exchanges with
  | .ok (p :: ps) => [.params stem ((p :: ps).map Prod.fst)]
  | _ => []

/-- The registration of the body of a request, if it has one. -/
def Exchange.requestRegistration? (stem : String) (e : Exchange) : Option Registration :=
  match e.request.body with
  | ⟨none, _⟩ => none
  | ⟨some text, mime⟩ => some (.body stem text mime)

/-- The registration of the body of a response, if it can be read and is
not empty. -/
def Exchange.responseRegistration? (stem : String) (e : Exchange) : Option Registration :=
  match e.response.body with
  | .error _ => none
  | .ok ⟨text, mime⟩ => (nonempty? text).map fun text => .body stem text mime

/-- What the names of a group's types are made from. -/
def EndpointGroup.stem (options : Options) (g : EndpointGroup) : String :=
  options.typePrefix ++ titleWords "Root" g.resource

/-- The registrations of the query parameters of a group. -/
def EndpointGroup.params (options : Options) (g : EndpointGroup) : List Registration :=
  paramsRegistrations (g.stem options ++ "Params") g.exchanges

/-- The registrations of the request bodies of a group. -/
def EndpointGroup.requests (options : Options) (g : EndpointGroup) : List Registration :=
  g.exchanges.filterMap (Exchange.requestRegistration? (g.stem options ++ "Request"))

/-- The registrations of the responses of a group. -/
def EndpointGroup.responses (options : Options) (g : EndpointGroup) : List Registration :=
  g.exchanges.filterMap (Exchange.responseRegistration? (g.stem options ++ "Response"))

/-- **The registrations of a group.** -/
def EndpointGroup.registrations (options : Options) (g : EndpointGroup) : List Registration :=
  g.params options ++ g.requests options ++ g.responses options

/-- **The registrations of a run**, in order. -/
def registrations (options : Options) (capture : Capture) : List Registration :=
  (groupExchanges capture.exchanges).flatMap (EndpointGroup.registrations options)

/-- What a type of a group is for. -/
def roles : List String := ["Params", "Request", "Response"]

theorem isTitle_of_mem_roles {role : String} (h : role ∈ roles) : IsTitle role := by
  simp only [roles, List.mem_cons, List.not_mem_nil, or_false] at h
  rcases h with rfl | rfl | rfl
  · exact ⟨'P', "arams".toList, rfl, by decide, by decide⟩
  · exact ⟨'R', "equest".toList, rfl, by decide, by decide⟩
  · exact ⟨'R', "esponse".toList, rfl, by decide, by decide⟩

/-- The stem of a registration is that of its group with a role behind
it. -/
theorem EndpointGroup.exists_role {options : Options} {g : EndpointGroup} {r : Registration}
    (h : r ∈ g.registrations options) : ∃ role ∈ roles, r.stem = g.stem options ++ role := by
  rw [EndpointGroup.registrations, List.mem_append, List.mem_append] at h
  rcases h with (h | h) | h
  · refine ⟨"Params", by decide, ?_⟩
    unfold EndpointGroup.params paramsRegistrations at h
    split at h
    · rw [List.mem_singleton.mp h]
      rfl
    · exact absurd h List.not_mem_nil
  · refine ⟨"Request", by decide, ?_⟩
    obtain ⟨e, -, he⟩ := List.mem_filterMap.mp h
    unfold Exchange.requestRegistration? at he
    split at he
    · cases he
    · rw [← Option.some.inj he]
      rfl
  · refine ⟨"Response", by decide, ?_⟩
    obtain ⟨e, -, he⟩ := List.mem_filterMap.mp h
    unfold Exchange.responseRegistration? at he
    split at he
    · cases he
    · obtain ⟨text, -, rfl⟩ := Option.map_eq_some_iff.mp he
      rfl

/-- The words of a resource make a title. -/
theorem EndpointGroup.isTitle_resource (g : EndpointGroup) :
    IsTitle (titleWords "Root" g.resource) :=
  isTitle_titleWords ⟨'R', "oot".toList, rfl, by decide, by decide⟩ _

/-- The stem of a registration is the prefix with two titles behind it. -/
theorem exists_stem_eq {options : Options} {capture : Capture} {r : Registration}
    (h : r ∈ registrations options capture) :
    ∃ title role, IsTitle title ∧ IsTitle role
      ∧ r.stem = options.typePrefix ++ title ++ role := by
  obtain ⟨g, -, hr⟩ := List.mem_flatMap.mp h
  obtain ⟨role, hrole, hstem⟩ := g.exists_role hr
  exact ⟨_, role, g.isTitle_resource, isTitle_of_mem_roles hrole, hstem⟩

/-- The exchange of a URL that is read and a JSON text that is received. -/
def Exchange.received (url text : String) : Exchange :=
  ⟨⟨"GET", url, [], none⟩, ⟨200, [], some ⟨some "application/json", some text, none⟩⟩⟩

/-- **The types of a binding**, from the ledger its group is bound in: the
last answers to the registrations of the group. -/
structure Ledger.Binds (l : Ledger) (options : Options) (g : EndpointGroup) (b : Binding) :
    Prop where
  /-- The type of the query parameters. -/
  params : b.paramsType = l.lastAnswer id unknownParams (g.params options)
  /-- The type of the request body. -/
  body : b.bodyType = (l.run (g.params options)).lastAnswer id noBody (g.requests options)
  /-- The type of the response. -/
  response : b.responseType = (l.run (g.params options ++ g.requests options)).lastAnswer
    responseOf unknownResponse (g.responses options)

namespace Session

/-- **The ledger of a session.** -/
def ledger (s : Session) : Ledger := ⟨s.fieldNames, s.types⟩

/-- **The session after some registrations**, with some notices more. -/
def registered (s : Session) (rs : List Registration) (notices : List Notice) : Session :=
  { s with
    fieldNames := (s.ledger.run rs).names
    types := (s.ledger.run rs).types
    notices := s.notices ++ notices }

@[simp] theorem ledger_registered (s : Session) (rs : List Registration) (notices : List Notice) :
    (s.registered rs notices).ledger = s.ledger.run rs := rfl

@[simp] theorem notices_registered (s : Session) (rs : List Registration)
    (notices : List Notice) : (s.registered rs notices).notices = s.notices ++ notices := rfl

@[simp] theorem registered_nil (s : Session) : s.registered [] [] = s := by
  rw [registered, List.append_nil]
  rfl

@[simp] theorem registered_registered (s : Session) (rs rs' : List Registration)
    (notices notices' : List Notice) : (s.registered rs notices).registered rs' notices'
      = s.registered (rs ++ rs') (notices ++ notices') := by
  simp only [registered, ← List.append_assoc, Ledger.run_append]
  rfl

/-! ## One endpoint -/

section

variable {standIns : Text.StandIns}

/-- A notice that is printed is put behind the others. -/
theorem note_spec {s s' : Session} {notice : Option Notice}
    (h : s.note standIns notice = .ok s') : s' = s.registered [] notice.toList := by
  unfold note at h
  split at h
  · cases h
  · cases h
    rfl

/-- The notice of the sample in a body, if there is one. -/
def sampleNotice? (s : Session) (stem text : String) (mime : Option String) : Option Notice :=
  (Sample.infer (s.types.available (s.bodyStem stem)) (.text text) mime s.fieldNames).notice

/-- **Registering a body** is a registration, and is not refused. Only the
notice of its sample can get in the way. -/
theorem registerBody_eq (standIns : Text.StandIns) (s : Session) (stem text : String)
    (mime : Option String) : s.registerBody standIns stem text mime =
      match (s.sampleNotice? stem text mime).bind fun n => standIns.fault? n.line with
      | some fault => .error ⟨s.notices, fault⟩
      | none => .ok (.ok (s.ledger.answer (.body stem text mime)),
          s.registered [.body stem text mime] (s.sampleNotice? stem text mime).toList) := by
  have hregister : s.types.register (s.types.available (s.bodyStem stem))
      (Sample.infer (s.types.available (s.bodyStem stem)) (.text text) mime
        s.fieldNames).definition.text = _ := s.ledger.register_eq (.body stem text mime)
  unfold registerBody infer note sampleNotice?
  dsimp only
  cases hprinted : (Sample.infer (s.types.available (s.bodyStem stem)) (.text text) mime
      s.fieldNames).notice.bind fun n => standIns.fault? n.line with
  | some fault => rfl
  | none =>
    simp only [register, hregister]
    rfl

theorem registerBody_spec {s s' : Session} {stem text : String} {mime : Option String}
    {result : Except RegistryError String}
    (h : s.registerBody standIns stem text mime = .ok (result, s')) :
    result = .ok (s.ledger.answer (.body stem text mime))
      ∧ s' = s.registered [.body stem text mime] (s.sampleNotice? stem text mime).toList := by
  rw [registerBody_eq] at h
  split at h
  · cases h
  · cases h
    exact ⟨rfl, rfl⟩

/-- **Registering query parameters** is a registration, if there are any,
and is not refused. -/
theorem registerParams_eq (s : Session) (stem : String) {exchanges : List Exchange}
    (h : ∀ e ∈ exchanges, e.Readable) :
    s.registerParams stem exchanges
      = .ok (s.ledger.lastAnswer id unknownParams (paramsRegistrations stem exchanges),
          s.registered (paramsRegistrations stem exchanges) []) := by
  unfold registerParams paramsRegistrations
  rw [queryParameters_eq h]
  cases valuesByKey (exchanges.flatMap Exchange.query) with
  | nil =>
    rw [registered_nil]
    rfl
  | cons p ps =>
    have hregister : s.types.register (s.types.available stem)
        (Interface.text ⟨s.types.available stem,
          (paramFields s.fieldNames ((p :: ps).map Prod.fst)).1⟩) = _ :=
      s.ledger.register_eq (.params stem ((p :: ps).map Prod.fst))
    unfold register
    simp only [hregister, registered, List.append_nil]
    rfl

/-- Registering query parameters touches nothing but names of fields and
definitions. -/
theorem exists_of_registerParams {s s' : Session} {stem name : String}
    {exchanges : List Exchange} (h : s.registerParams stem exchanges = .ok (name, s')) :
    ∃ fieldNames types, s' = { s with fieldNames := fieldNames, types := types } := by
  unfold registerParams at h
  split at h
  · cases h
  · cases h
    exact ⟨_, _, rfl⟩
  · unfold register at h
    dsimp only at h
    split at h
    · rename_i hregister
      cases h
      split at hregister
      · cases hregister
        exact ⟨_, _, rfl⟩
      · cases hregister
    · cases h

/-- **A step that makes the registration of an exchange**, if it has one:
the type it leads to is the answer, written in some way. -/
def Registers (wrap : String → String) (registration? : Exchange → Option Registration)
    (step : TypeStep) : Prop :=
  ∀ ⦃s s' : Session⦄ ⦃type type' : String⦄ ⦃e : Exchange⦄, step s type e = .ok (type', s') →
    type' = s.ledger.lastAnswer wrap type (registration? e).toList
      ∧ ∃ notices, s' = s.registered (registration? e).toList notices

/-- A request with a body gives the type, since it is not refused. -/
theorem requestStep_eq (standIns : Text.StandIns) (stem : String) (s : Session) (type : String)
    (e : Exchange) : requestStep standIns stem s type e =
      match e.request.body with
      | ⟨none, _⟩ => .ok (type, s)
      | ⟨some text, mime⟩ =>
        match s.registerBody standIns stem text mime with
        | .error u => .error u
        | .ok (_, s') => .ok (s.ledger.answer (.body stem text mime), s') := by
  unfold requestStep
  rcases e.request.body with ⟨text?, mime⟩
  cases text? with
  | none => rfl
  | some text =>
    simp only
    cases hbody : s.registerBody standIns stem text mime with
    | error u => rfl
    | ok answered =>
      obtain ⟨result, s'⟩ := answered
      obtain ⟨rfl, -⟩ := registerBody_spec hbody
      rfl

/-- A response that can be decoded and is not empty gives the type, since
it is not refused. -/
theorem responseStep_eq (standIns : Text.StandIns) (stem : String) (s : Session) (type : String)
    (e : Exchange) : responseStep standIns stem s type e =
      match e.response.body with
      | .error cause =>
        match s.note standIns (some (.responsePassedOver e.request.url (.undecodable cause))) with
        | .error u => .error u
        | .ok s' => .ok (type, s')
      | .ok ⟨text, mime⟩ =>
        match nonempty? text with
        | none => .ok (type, s)
        | some text =>
          match s.registerBody standIns stem text mime with
          | .error u => .error u
          | .ok (_, s') => .ok (responseOf (s.ledger.answer (.body stem text mime)), s') := by
  unfold responseStep
  cases e.response.body with
  | error cause =>
    cases hnote : s.note standIns (some (.responsePassedOver e.request.url (.undecodable cause)))
      <;> simp only [hnote]
  | ok content =>
    rcases content with ⟨text?, mime⟩
    simp only
    cases nonempty? text? with
    | none => rfl
    | some text =>
      simp only
      cases hbody : s.registerBody standIns stem text mime with
      | error u => rfl
      | ok answered =>
        obtain ⟨result, s'⟩ := answered
        obtain ⟨rfl, -⟩ := registerBody_spec hbody
        rfl

/-- **A request** makes its registration. -/
theorem registers_requestStep (stem : String) :
    Registers id (Exchange.requestRegistration? stem) (requestStep standIns stem) := by
  intro s s' type type' e h
  rw [requestStep_eq] at h
  unfold Exchange.requestRegistration?
  split at h
  · cases h
    exact ⟨rfl, [], s.registered_nil.symm⟩
  · split at h
    · cases h
    · rename_i hbody
      cases h
      exact ⟨rfl, _, (registerBody_spec hbody).2⟩

/-- **A response** makes its registration. -/
theorem registers_responseStep (stem : String) :
    Registers responseOf (Exchange.responseRegistration? stem) (responseStep standIns stem) := by
  intro s s' type type' e h
  rw [responseStep_eq] at h
  unfold Exchange.responseRegistration?
  split at h
  · split at h
    · cases h
    · rename_i hnote
      cases h
      exact ⟨rfl, _, note_spec hnote⟩
  · split at h
    · rename_i hnone
      cases h
      simp only [hnone]
      exact ⟨rfl, [], s.registered_nil.symm⟩
    · rename_i hsome
      split at h
      · cases h
      · rename_i hbody
        cases h
        simp only [hsome]
        exact ⟨rfl, _, (registerBody_spec hbody).2⟩

/-- **The registrations of some exchanges** are made in order. -/
theorem typeAfter_spec {wrap : String → String}
    {registration? : Exchange → Option Registration} {step : TypeStep}
    (hstep : Registers wrap registration? step) {s s' : Session} {type type' : String}
    {es : List Exchange} (h : typeAfter step s type es = .ok (type', s')) :
    type' = s.ledger.lastAnswer wrap type (es.filterMap registration?)
      ∧ ∃ notices, s' = s.registered (es.filterMap registration?) notices := by
  induction es generalizing s type with
  | nil =>
    cases h
    exact ⟨rfl, [], s'.registered_nil.symm⟩
  | cons e es ih =>
    rw [typeAfter] at h
    split at h
    · cases h
    · rename_i htype
      obtain ⟨rfl, notices₁, rfl⟩ := hstep htype
      obtain ⟨htype', notices₂, hs'⟩ := ih h
      have hsplit : (e :: es).filterMap registration?
          = (registration? e).toList ++ es.filterMap registration? := by
        rw [List.filterMap_cons]
        cases registration? e <;> rfl
      rw [hsplit, Ledger.lastAnswer_append]
      exact ⟨htype', _, hs'.trans (s.registered_registered _ _ _ _)⟩

/-- What a step keeps is kept by some exchanges. -/
theorem typeAfter_induction {step : TypeStep} {kept : Session → Prop}
    (hstep : ∀ ⦃s s' : Session⦄ ⦃type type' : String⦄ ⦃e : Exchange⦄,
      kept s → step s type e = .ok (type', s') → kept s')
    {s s' : Session} {type type' : String} {es : List Exchange} (hs : kept s)
    (h : typeAfter step s type es = .ok (type', s')) : kept s' := by
  induction es generalizing s type with
  | nil =>
    cases h
    exact hs
  | cons e es ih =>
    rw [typeAfter] at h
    split at h
    · cases h
    · rename_i hfirst
      exact ih (hstep hs hfirst) h

/-- **The request bodies of some exchanges** are registered in order. -/
theorem bodyType_spec {stem type : String} {s s' : Session} {es : List Exchange}
    (h : s.bodyType standIns stem es = .ok (type, s')) :
    type = s.ledger.lastAnswer id noBody (es.filterMap (Exchange.requestRegistration? stem))
      ∧ ∃ notices,
        s' = s.registered (es.filterMap (Exchange.requestRegistration? stem)) notices :=
  typeAfter_spec (registers_requestStep stem) h

/-- **The responses of some exchanges** are registered in order. -/
theorem responseType_spec {stem type : String} {s s' : Session} {es : List Exchange}
    (h : s.responseType standIns stem es = .ok (type, s')) :
    type = s.ledger.lastAnswer responseOf unknownResponse
        (es.filterMap (Exchange.responseRegistration? stem))
      ∧ ∃ notices,
        s' = s.registered (es.filterMap (Exchange.responseRegistration? stem)) notices :=
  typeAfter_spec (registers_responseStep stem) h

/-- **How a group is bound**: its query parameters are registered, then its
request bodies, then its responses, each in the session that is left; at
the end the function is named. -/
structure Passes (standIns : Text.StandIns) (s : Session) (g : EndpointGroup) (b : Binding)
    (s' : Session) (first : Exchange) (u : Url) (s₁ s₂ s₃ : Session) : Prop where
  /-- There is a first exchange. -/
  head : g.exchanges.head? = some first
  /-- Its URL can be read. -/
  url : Url.parse first.request.url = .ok u
  /-- The first pass is over the query parameters. -/
  params : s.registerParams (g.stem s.options ++ "Params") g.exchanges = .ok (b.paramsType, s₁)
  /-- The second pass is over the request bodies. -/
  requests : s₁.bodyType standIns (g.stem s.options ++ "Request") g.exchanges
    = .ok (b.bodyType, s₂)
  /-- The third pass is over the responses. -/
  responses : s₂.responseType standIns (g.stem s.options ++ "Response") g.exchanges
    = .ok (b.responseType, s₃)
  /-- The rest of the binding is made from the first exchange. -/
  binding : b = { b with
    functionName := (s₃.functionNames.assign g.key (Endpoint.functionBase g.method u)).1
    method := g.method
    origin := u.origin
    path := u.pathOrRoot
    headers := first.request.headers.filter fun h => !h.isFraming }
  /-- What is left is the session with the name of the function. -/
  left : s' = { s₃ with
    functionNames := (s₃.functionNames.assign g.key (Endpoint.functionBase g.method u)).2 }

theorem bind_eq_ok_iff {s s' : Session} {g : EndpointGroup} {b : Binding} :
    s.bind standIns g = .ok (b, s')
      ↔ ∃ first u s₁ s₂ s₃, Passes standIns s g b s' first u s₁ s₂ s₃ := by
  constructor
  · intro h
    unfold bind at h
    split at h
    · cases h
    · rename_i first rest hexchanges
      split at h
      · cases h
      · rename_i u hurl
        dsimp only at h
        split at h
        · cases h
        · rename_i s₁ hparams
          split at h
          · cases h
          · rename_i s₂ hbody
            split at h
            · cases h
            · rename_i s₃ hresponse
              cases h
              exact ⟨first, u, s₁, s₂, s₃, by rw [hexchanges]; rfl, hurl, hparams, hbody,
                hresponse, rfl, rfl⟩
  · rintro ⟨first, u, s₁, s₂, s₃, hfirst, hurl, hparams, hbody, hresponse, hbinding, rfl⟩
    obtain ⟨rest, hexchanges⟩ := List.head?_eq_some_iff.mp hfirst
    rw [EndpointGroup.stem] at hparams hbody hresponse
    rw [hexchanges] at hparams hbody hresponse
    unfold bind
    rw [hexchanges]
    simp only [hurl, hparams, hbody, hresponse]
    exact congrArg (fun b => Except.ok (b, _)) hbinding.symm

/-- **Binding a group** makes its registrations in order, and the types of
the binding are the last answers. -/
theorem binds_of_bind {s s' : Session} {g : EndpointGroup} {b : Binding}
    (h : s.bind standIns g = .ok (b, s')) (hurl : ∀ e ∈ g.exchanges, e.Readable) :
    s'.ledger = s.ledger.run (g.registrations s.options) ∧ s'.options = s.options
      ∧ s.ledger.Binds s.options g b := by
  obtain ⟨first, u, s₁, s₂, s₃, hpasses⟩ := bind_eq_ok_iff.mp h
  obtain ⟨htype₁, rfl⟩ := Prod.mk.inj (Except.ok.inj
    ((s.registerParams_eq _ hurl).symm.trans hpasses.params))
  obtain ⟨htype₂, notices₂, rfl⟩ := bodyType_spec hpasses.requests
  obtain ⟨htype₃, notices₃, rfl⟩ := responseType_spec hpasses.responses
  rw [hpasses.left]
  have hall : ((s.registered (g.params s.options) []).registered (g.requests s.options)
      notices₂).registered (g.responses s.options) notices₃
      = s.registered (g.registrations s.options) (notices₂ ++ notices₃) := by
    rw [registered_registered, registered_registered, List.nil_append,
      EndpointGroup.registrations, List.append_assoc]
  rw [registered_registered] at htype₃
  exact ⟨congrArg ledger hall, rfl, htype₁.symm, htype₂, htype₃⟩

end

/-! ## Where every notice can be printed -/

/-- A body is registered. -/
theorem registerBody_nil (s : Session) (stem text : String) (mime : Option String) :
    s.registerBody [] stem text mime
      = .ok (.ok (s.ledger.answer (.body stem text mime)),
          s.registered [.body stem text mime] (s.sampleNotice? stem text mime).toList) := by
  simp [registerBody_eq]

/-- A request is no obstacle. -/
theorem exists_requestStep_eq (stem : String) (s : Session) (type : String) (e : Exchange) :
    ∃ type' s', requestStep [] stem s type e = .ok (type', s') := by
  rw [requestStep_eq]
  rcases e.request.body with ⟨text?, mime⟩
  cases text? with
  | none => exact ⟨_, _, rfl⟩
  | some text =>
    simp only [registerBody_nil]
    exact ⟨_, _, rfl⟩

/-- A response is no obstacle. -/
theorem exists_responseStep_eq (stem : String) (s : Session) (type : String) (e : Exchange) :
    ∃ type' s', responseStep [] stem s type e = .ok (type', s') := by
  rw [responseStep_eq]
  cases e.response.body with
  | error cause =>
    simp only [note, Option.bind_some, Text.StandIns.fault?_nil]
    exact ⟨_, _, rfl⟩
  | ok content =>
    rcases content with ⟨text?, mime⟩
    simp only
    cases nonempty? text? with
    | none => exact ⟨_, _, rfl⟩
    | some text =>
      simp only [registerBody_nil]
      exact ⟨_, _, rfl⟩

/-- Exchanges lead to a type if each of them does. -/
theorem exists_typeAfter_eq {step : TypeStep}
    (hstep : ∀ s type e, ∃ type' s', step s type e = .ok (type', s')) (s : Session)
    (type : String) (es : List Exchange) :
    ∃ type' s', typeAfter step s type es = .ok (type', s') := by
  induction es generalizing s type with
  | nil => exact ⟨_, _, rfl⟩
  | cons e es ih =>
    obtain ⟨type', s', htype⟩ := hstep s type e
    rw [typeAfter, htype]
    exact ih s' type'

theorem exists_bodyType_eq (s : Session) (stem : String) (es : List Exchange) :
    ∃ type s', s.bodyType [] stem es = .ok (type, s') :=
  exists_typeAfter_eq (exists_requestStep_eq stem) s noBody es

theorem exists_responseType_eq (s : Session) (stem : String) (es : List Exchange) :
    ∃ type s', s.responseType [] stem es = .ok (type, s') :=
  exists_typeAfter_eq (exists_responseStep_eq stem) s unknownResponse es

/-- **A group is bound** if it has an exchange and its URLs can be read. -/
theorem exists_bind_eq (s : Session) {g : EndpointGroup} (hne : g.exchanges ≠ [])
    (hurl : ∀ e ∈ g.exchanges, e.Readable) : ∃ b s', s.bind [] g = .ok (b, s') := by
  obtain ⟨first, rest, hexchanges⟩ := List.exists_cons_of_ne_nil hne
  obtain ⟨u, hu⟩ := hurl first (by rw [hexchanges]; exact List.mem_cons_self)
  obtain ⟨type₂, s₂, hbody⟩ := exists_bodyType_eq
    (s.registered (g.params s.options) []) (g.stem s.options ++ "Request") g.exchanges
  obtain ⟨type₃, s₃, hresponse⟩ :=
    s₂.exists_responseType_eq (g.stem s.options ++ "Response") g.exchanges
  refine ⟨⟨_, _, _, _, _, type₂, type₃, _⟩, _, bind_eq_ok_iff.mpr ⟨first, u, _, s₂, s₃, ?_, hu,
    s.registerParams_eq _ hurl, hbody, hresponse, rfl, rfl⟩⟩
  rw [hexchanges]
  rfl

theorem bind_spec (s : Session) {g : EndpointGroup} (hne : g.exchanges ≠ [])
    (hurl : ∀ e ∈ g.exchanges, e.Readable) :
    ∃ b s', s.bind [] g = .ok (b, s')
      ∧ s'.ledger = s.ledger.run (g.registrations s.options) ∧ s'.options = s.options
      ∧ s.ledger.Binds s.options g b := by
  obtain ⟨b, s', hbind⟩ := s.exists_bind_eq hne hurl
  exact ⟨b, s', hbind, binds_of_bind hbind hurl⟩

/-! ## The whole run -/

variable {standIns : Text.StandIns}

/-- Binding the first of several groups, then the others, binds them all. -/
theorem bindAll_cons {s s₁ s₂ : Session} {g : EndpointGroup} {gs : List EndpointGroup}
    {b : Binding} {bs : List Binding} (hbind : s.bind standIns g = .ok (b, s₁))
    (hrest : s₁.bindAll standIns gs = .ok (bs, s₂)) :
    s.bindAll standIns (g :: gs) = .ok (b :: bs, s₂) := by
  rw [bindAll, hbind]
  simp only [hrest]

/-- **Binding several groups** makes their registrations in order. -/
theorem bindAll_spec (s : Session) {gs : List EndpointGroup}
    (hne : ∀ g ∈ gs, g.exchanges ≠ []) (hurl : ∀ g ∈ gs, ∀ e ∈ g.exchanges, e.Readable) :
    ∃ bs s', s.bindAll [] gs = .ok (bs, s')
      ∧ s'.ledger = s.ledger.run (gs.flatMap (EndpointGroup.registrations s.options))
      ∧ s'.options = s.options
      ∧ ∀ b ∈ bs, ∃ before g behind, gs = before ++ g :: behind
          ∧ (s.ledger.run (before.flatMap (EndpointGroup.registrations s.options))).Binds
              s.options g b := by
  induction gs generalizing s with
  | nil => exact ⟨[], s, rfl, rfl, rfl, fun b hb => absurd hb List.not_mem_nil⟩
  | cons g gs ih =>
    obtain ⟨b, s₁, hbind, hledger, hoptions, hbinds⟩ :=
      s.bind_spec (hne g List.mem_cons_self) (hurl g List.mem_cons_self)
    obtain ⟨bs, s₂, hbindAll, hledger', hoptions', hrest⟩ := ih s₁
      (fun p hp => hne p (List.mem_cons_of_mem _ hp))
      (fun p hp => hurl p (List.mem_cons_of_mem _ hp))
    rw [hoptions, hledger] at hledger' hrest
    refine ⟨b :: bs, s₂, bindAll_cons hbind hbindAll, ?_, hoptions'.trans hoptions,
      fun c hc => ?_⟩
    · rw [hledger', List.flatMap_cons, Ledger.run_append]
    · rcases List.mem_cons.mp hc with rfl | hc
      · exact ⟨[], g, gs, rfl, hbinds⟩
      · obtain ⟨before, p, behind, rfl, hp⟩ := hrest c hc
        refine ⟨g :: before, p, behind, rfl, ?_⟩
        rw [List.flatMap_cons, Ledger.run_append]
        exact hp

/-- Binding several groups binds the first of them, then the others in the
session that it leaves. -/
theorem exists_of_bindAll_cons {s s' : Session} {g : EndpointGroup} {gs : List EndpointGroup}
    {bindings : List Binding} (h : s.bindAll standIns (g :: gs) = .ok (bindings, s')) :
    ∃ b bs s₁, bindings = b :: bs ∧ s.bind standIns g = .ok (b, s₁)
      ∧ s₁.bindAll standIns gs = .ok (bs, s') := by
  rw [bindAll] at h
  split at h
  · cases h
  · rename_i b s₁ hbind
    split at h
    · cases h
    · rename_i bs s₂ hrest
      cases h
      exact ⟨b, bs, s₁, rfl, hbind, hrest⟩

/-- Binding several groups binds each of them in the session that those
before it leave. -/
theorem exists_of_bindAll_append {s s' : Session} {before behind : List EndpointGroup}
    {g : EndpointGroup} {bindings : List Binding}
    (h : s.bindAll standIns (before ++ g :: behind) = .ok (bindings, s')) :
    ∃ bs b bs' s₀ s₁, bindings = bs ++ b :: bs' ∧ s.bindAll standIns before = .ok (bs, s₀)
      ∧ s₀.bind standIns g = .ok (b, s₁) ∧ s₁.bindAll standIns behind = .ok (bs', s') := by
  induction before generalizing s bindings with
  | nil =>
    obtain ⟨b, bs', s₁, rfl, hbind, hrest⟩ := exists_of_bindAll_cons h
    exact ⟨[], b, bs', s, s₁, rfl, rfl, hbind, hrest⟩
  | cons p before ih =>
    obtain ⟨c, cs, s₁, rfl, hbind, hrest⟩ := exists_of_bindAll_cons h
    obtain ⟨bs, b, bs', s₀, s₃, rfl, hbefore, hg, hbehind⟩ := ih hrest
    exact ⟨c :: bs, b, bs', s₀, s₃, rfl, bindAll_cons hbind hbefore, hg, hbehind⟩

/-- A binding of several groups is that of one of them, in the session that
those before it leave. -/
theorem exists_split_of_mem_bindAll {s s' : Session} {gs : List EndpointGroup}
    {bindings : List Binding} (h : s.bindAll standIns gs = .ok (bindings, s')) {b : Binding}
    (hb : b ∈ bindings) : ∃ before g behind, gs = before ++ g :: behind
      ∧ ∃ (bs : List Binding) (s₀ s₁ : Session),
          s.bindAll standIns before = .ok (bs, s₀) ∧ s₀.bind standIns g = .ok (b, s₁) := by
  induction gs generalizing s bindings with
  | nil =>
    cases h
    exact absurd hb List.not_mem_nil
  | cons g gs ih =>
    obtain ⟨c, cs, s₁, rfl, hbind, hrest⟩ := exists_of_bindAll_cons h
    rcases List.mem_cons.mp hb with rfl | hb
    · exact ⟨[], g, gs, rfl, [], s, s₁, rfl, hbind⟩
    · obtain ⟨before, p, behind, rfl, bs, s₀, s₂, hbefore, hbound⟩ := ih hrest hb
      exact ⟨g :: before, p, behind, rfl, c :: bs, s₀, s₂, bindAll_cons hbind hbefore, hbound⟩

/-- What comes of binding several groups comes of binding one of them. -/
theorem exists_bind_of_mem_bindAll {s s' : Session} {gs : List EndpointGroup}
    {bindings : List Binding} (h : s.bindAll standIns gs = .ok (bindings, s')) {b : Binding}
    (hb : b ∈ bindings) : ∃ g ∈ gs, ∃ s₀ s₁ : Session, s₀.bind standIns g = .ok (b, s₁) := by
  obtain ⟨before, g, behind, rfl, -, s₀, s₁, -, hbound⟩ := exists_split_of_mem_bindAll h hb
  exact ⟨g, List.mem_append_right _ List.mem_cons_self, s₀, s₁, hbound⟩

/-- **A run binds the groups of its capture**, from whatever session it
starts. -/
theorem exists_run_eq (s : Session) (capture : Capture) :
    ∃ sdk s', s.run capture = .ok (sdk, s')
      ∧ s.reset.bindAll [] (groupExchanges capture.exchanges) = .ok (sdk.bindings, s')
      ∧ sdk.types = s'.types.entries := by
  have hgroups := wellGrouped_groupExchanges capture.exchanges
  obtain ⟨bs, s', hbind, -⟩ := s.reset.bindAll_spec hgroups.nonempty hgroups.readable
  refine ⟨⟨s'.types.entries, bs⟩, s', ?_, hbind, rfl⟩
  unfold run runWith
  simp only [groupFault?_groupExchanges, hbind]

end Session

/-- **A run ends**, with the ledger of its registrations. The types of
each binding are the last answers to the registrations of its group. -/
theorem exists_generate_eq (options : Options) (capture : Capture) :
    ∃ sdk s, generate options capture = .ok (sdk, s)
      ∧ s.ledger = (Ledger.start options).run (registrations options capture)
      ∧ sdk.types = s.ledger.types.entries
      ∧ ∀ b ∈ sdk.bindings, ∃ before g behind,
          groupExchanges capture.exchanges = before ++ g :: behind
          ∧ ((Ledger.start options).run
              (before.flatMap (EndpointGroup.registrations options))).Binds options g b := by
  have hgroups := wellGrouped_groupExchanges capture.exchanges
  obtain ⟨sdk, s, hrun, hbind, htypes⟩ := (Session.start options).exists_run_eq capture
  obtain ⟨_, _, hbind', hledger, -, hbindings⟩ :=
    (Session.start options).reset.bindAll_spec hgroups.nonempty hgroups.readable
  rw [hbind] at hbind'
  cases hbind'
  exact ⟨sdk, s, hrun, hledger, htypes, hbindings⟩

end TypedTraffic
