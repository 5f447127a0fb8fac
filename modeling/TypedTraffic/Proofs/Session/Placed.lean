import TypedTraffic.Proofs.Session.Latest

/-!
# What options have no say in

Options decide how types are named and which definitions are shared. The
rest of a binding is settled by the exchanges of its group: where the
endpoint is, how its function is called, and whether there is anything to
make a type from. The names of fields are settled by what is read for the
registrations (`Ledger.run_names`), which options have no say in either.

So two runs over one capture go side by side whatever their options are
(`Session.Alongside.bind`): the names of types, the definitions that are
shared and the numbers of definitions differ, and nothing of this comes
back to the names of fields and functions (`sameButTypes_generate`).
-/

namespace TypedTraffic

open Naming

/-! ## Names of fields -/

/-- **The names of fields after some registrations** depend on what is
read for them alone. -/
theorem Ledger.run_names (l : Ledger) (rs : List Registration) :
    (l.run rs).names = l.names.nameFields ((rs.map Registration.reading).flatMap Reading.keys) := by
  induction rs generalizing l with
  | nil => rfl
  | cons r rs ih =>
    rw [List.map_cons, List.flatMap_cons, FieldNames.nameFields_append, ← after_names]
    exact ih (l.after r)

namespace EndpointGroup

variable (g : EndpointGroup) (options options' : Options)

theorem params_readings : (g.params options).map Registration.reading
    = (g.params options').map Registration.reading := by
  unfold params paramsRegistrations
  rcases queryParameters g.exchanges with e | parameters
  · rfl
  · cases parameters <;> rfl

theorem requests_readings : (g.requests options).map Registration.reading
    = (g.requests options').map Registration.reading := by
  simp only [requests, filterMap_requestRegistration?, sampled, List.map_map]
  rfl

theorem responses_readings : (g.responses options).map Registration.reading
    = (g.responses options').map Registration.reading := by
  simp only [responses, filterMap_responseRegistration?, sampled, List.map_map]
  rfl

/-- **What is read for a group** does not depend on the options. -/
theorem registrations_readings : (g.registrations options).map Registration.reading
    = (g.registrations options').map Registration.reading := by
  rw [registrations, registrations, List.map_append, List.map_append, List.map_append,
    List.map_append, g.params_readings options options', g.requests_readings options options',
    g.responses_readings options options']

end EndpointGroup

/-! ## Names of functions -/

namespace Session

/-- Registering leaves the names of functions as they are. -/
theorem functionNames_registerParams {s t : Session} {stem name : String}
    {exchanges : List Exchange} (h : s.registerParams stem exchanges = .ok (name, t)) :
    t.functionNames = s.functionNames := by
  obtain ⟨fieldNames, types, rfl⟩ := exists_of_registerParams h
  rfl

theorem functionNames_bodyType {standIns : Text.StandIns} {stem type : String} {s t : Session}
    {es : List Exchange} (h : s.bodyType standIns stem es = .ok (type, t)) :
    t.functionNames = s.functionNames := by
  obtain ⟨-, notices, rfl⟩ := bodyType_spec h
  rfl

theorem functionNames_responseType {standIns : Text.StandIns} {stem type : String}
    {s t : Session} {es : List Exchange} (h : s.responseType standIns stem es = .ok (type, t)) :
    t.functionNames = s.functionNames := by
  obtain ⟨-, notices, rfl⟩ := responseType_spec h
  rfl

end Session

/-- **A binding of a group that is where its first exchange is.** -/
structure Binding.IsAt (b : Binding) (g : EndpointGroup) (first : Exchange) (u : Url) : Prop where
  /-- The method is that of the group. -/
  method : b.method = g.method
  /-- The origin is that of the URL. -/
  origin : b.origin = u.origin
  /-- The path is that of the URL. -/
  path : b.path = u.pathOrRoot
  /-- The headers are those of the first request. -/
  headers : b.headers = first.request.headers.filter fun h => !h.isFraming

/-- **Where an endpoint is, and how its function is called**, has nothing
to do with its types. -/
theorem Session.isAt_of_bind {standIns : Text.StandIns} {s t : Session} {g : EndpointGroup}
    {b : Binding} (h : s.bind standIns g = .ok (b, t)) {first : Exchange} {rest : List Exchange}
    (hfirst : g.exchanges = first :: rest) {u : Url} (hu : Url.parse first.request.url = .ok u) :
    b.IsAt g first u
      ∧ (b.functionName, t.functionNames)
        = s.functionNames.assign g.key (Endpoint.functionBase g.method u) := by
  obtain ⟨first', u', s₁, s₂, s₃, hpasses⟩ := bind_eq_ok_iff.mp h
  have hhead := hpasses.head
  rw [hfirst] at hhead
  cases hhead
  cases hu.symm.trans hpasses.url
  have hnames : s₃.functionNames = s.functionNames := by
    rw [functionNames_responseType hpasses.responses, functionNames_bodyType hpasses.requests,
      functionNames_registerParams hpasses.params]
  rw [hpasses.binding, hpasses.left, hnames]
  exact ⟨⟨rfl, rfl, rfl, rfl⟩, rfl⟩

/-! ## Two runs side by side -/

/-- **Bindings that differ in the names of types at most.** -/
structure Binding.SameButTypes (b b' : Binding) : Prop where
  /-- The functions have the same name. -/
  functionName : b.functionName = b'.functionName
  /-- The methods are the same. -/
  method : b.method = b'.method
  /-- The origins are the same. -/
  origin : b.origin = b'.origin
  /-- The paths are the same. -/
  path : b.path = b'.path
  /-- The headers are the same. -/
  headers : b.headers = b'.headers
  /-- Both functions send a body, or none of them does. -/
  hasBody : b.hasBody = b'.hasBody
  /-- The parameters of both are not known, or those of none. -/
  params : b.paramsType = unknownParams ↔ b'.paramsType = unknownParams
  /-- The responses of both are not known, or those of none. -/
  response : b.responseType = unknownResponse ↔ b'.responseType = unknownResponse

/-- **Sessions that go side by side**: they agree in the names of fields
and functions, and their types are named by role. -/
structure Session.Alongside (s s' : Session) : Prop where
  /-- The names of fields are the same. -/
  fieldNames : s.fieldNames = s'.fieldNames
  /-- The names of functions are the same. -/
  functionNames : s.functionNames = s'.functionNames
  /-- In one session every type has a name with a role. -/
  roled : s.ledger.Roled
  /-- So it is in the other. -/
  roled' : s'.ledger.Roled

theorem HasRole.ne_unknownParams {n : String} (h : HasRole n) : id n ≠ unknownParams :=
  h.ne (show unknownParams.toList
    = "Record<string, string | number | boolean | undefined".toList ++ ['>'] from rfl) (by decide)

/-- **What is not known of a group**: the types of which nothing is
registered. -/
theorem Ledger.Roled.unknown_iff {l : Ledger} (h : l.Roled) {options : Options}
    {g : EndpointGroup} {b : Binding} (hb : l.Binds options g b) :
    (b.paramsType = unknownParams ↔ g.params options = [])
      ∧ (b.bodyType = noBody ↔ g.requests options = [])
      ∧ (b.responseType = unknownResponse ↔ g.responses options = []) := by
  have hparams : ∀ r ∈ g.params options, r.Roled := fun r hr =>
    ⟨_, g.exists_role (List.mem_append_left _ (List.mem_append_left _ hr))⟩
  have hrequests : ∀ r ∈ g.requests options, r.Roled := fun r hr =>
    ⟨_, g.exists_role (List.mem_append_left _ (List.mem_append_right _ hr))⟩
  have hresponses : ∀ r ∈ g.responses options, r.Roled := fun r hr =>
    ⟨_, g.exists_role (List.mem_append_right _ hr)⟩
  have hroled := (h.run hparams).run hrequests
  rw [← run_append] at hroled
  rw [hb.params, hb.body, hb.response]
  exact ⟨h.lastAnswer_eq_iff hparams fun n hn => hn.ne_unknownParams,
    (h.run hparams).lastAnswer_eq_iff hrequests fun n hn => hn.ne_noBody,
    hroled.lastAnswer_eq_iff hresponses fun n hn => hn.responseOf_ne⟩

/-- Lists of which the same is read are empty alike. -/
theorem eq_nil_iff_of_readings {rs rs' : List Registration}
    (h : rs.map Registration.reading = rs'.map Registration.reading) : rs = [] ↔ rs' = [] := by
  rw [← List.map_eq_nil_iff (f := Registration.reading), h, List.map_eq_nil_iff]

namespace Session.Alongside

variable {s s' : Session} (h : s.Alongside s')

include h

/-- **Binding a group** in two sessions side by side. -/
theorem bind {g : EndpointGroup} (hne : g.exchanges ≠ [])
    (hurl : ∀ e ∈ g.exchanges, e.Readable) :
    ∃ b t b' t', s.bind [] g = .ok (b, t) ∧ s'.bind [] g = .ok (b', t')
      ∧ b.SameButTypes b' ∧ t.Alongside t' := by
  obtain ⟨b, t, hbind, hledger, -, hbinds⟩ := s.bind_spec hne hurl
  obtain ⟨b', t', hbind', hledger', -, hbinds'⟩ := s'.bind_spec hne hurl
  obtain ⟨first, rest, hfirst⟩ := List.exists_cons_of_ne_nil hne
  obtain ⟨u, hu⟩ := hurl first (by rw [hfirst]; exact List.mem_cons_self)
  obtain ⟨hat, hfunction⟩ := isAt_of_bind hbind hfirst hu
  obtain ⟨hat', hfunction'⟩ := isAt_of_bind hbind' hfirst hu
  rw [← h.functionNames, ← hfunction, Prod.mk.injEq] at hfunction'
  obtain ⟨hparams, hbody, hresponse⟩ := h.roled.unknown_iff hbinds
  obtain ⟨hparams', hbody', hresponse'⟩ := h.roled'.unknown_iff hbinds'
  refine ⟨b, t, b', t', hbind, hbind', ?_, ?_⟩
  · refine ⟨hfunction'.1.symm, hat.method.trans hat'.method.symm, hat.origin.trans hat'.origin.symm,
      hat.path.trans hat'.path.symm, hat.headers.trans hat'.headers.symm, ?_, ?_, ?_⟩
    · rw [Binding.hasBody, Binding.hasBody, Bool.eq_iff_iff, bne_iff_ne, bne_iff_ne, ne_eq, ne_eq,
        hbody, hbody', eq_nil_iff_of_readings (g.requests_readings _ s'.options)]
    · rw [hparams, hparams', eq_nil_iff_of_readings (g.params_readings _ s'.options)]
    · rw [hresponse, hresponse', eq_nil_iff_of_readings (g.responses_readings _ s'.options)]
  · have hroles : ∀ options, ∀ r ∈ g.registrations options, r.Roled :=
      fun options r hr => ⟨_, g.exists_role hr⟩
    refine ⟨?_, hfunction'.2.symm, ?_, ?_⟩
    · -- the same is read for the group in both sessions
      show t.ledger.names = t'.ledger.names
      rw [hledger, hledger', Ledger.run_names, Ledger.run_names,
        g.registrations_readings _ s'.options]
      exact congrArg (FieldNames.nameFields · _) h.fieldNames
    · rw [hledger]
      exact h.roled.run (hroles _)
    · rw [hledger']
      exact h.roled'.run (hroles _)

/-- **Binding several groups** in two sessions side by side. -/
theorem bindAll {gs : List EndpointGroup} (hne : ∀ g ∈ gs, g.exchanges ≠ [])
    (hurl : ∀ g ∈ gs, ∀ e ∈ g.exchanges, e.Readable) :
    ∃ bs t bs' t', s.bindAll [] gs = .ok (bs, t) ∧ s'.bindAll [] gs = .ok (bs', t')
      ∧ List.Forall₂ Binding.SameButTypes bs bs' ∧ t.Alongside t' := by
  induction gs generalizing s s' with
  | nil => exact ⟨[], s, [], s', rfl, rfl, .nil, h⟩
  | cons g gs ih =>
    obtain ⟨b, t, b', t', hbind, hbind', hsame, hafter⟩ :=
      h.bind (hne g List.mem_cons_self) (hurl g List.mem_cons_self)
    obtain ⟨bs, u, bs', u', hbindAll, hbindAll', hrest, hend⟩ := ih hafter
      (fun p hp => hne p (List.mem_cons_of_mem _ hp))
      (fun p hp => hurl p (List.mem_cons_of_mem _ hp))
    exact ⟨b :: bs, u, b' :: bs', u', bindAll_cons hbind hbindAll, bindAll_cons hbind' hbindAll',
      .cons hsame hrest, hend⟩

end Session.Alongside

/-- **Options have no say but in types.** Under any two options the runs
over a capture return, with bindings that differ one by one in the names
of types at most, and with the same names of fields and functions. -/
theorem sameButTypes_generate (options options' : Options) (capture : Capture) :
    ∃ sdk s sdk' s', generate options capture = .ok (sdk, s)
      ∧ generate options' capture = .ok (sdk', s')
      ∧ List.Forall₂ Binding.SameButTypes sdk.bindings sdk'.bindings
      ∧ s.fieldNames = s'.fieldNames ∧ s.functionNames = s'.functionNames := by
  have hgroups := wellGrouped_groupExchanges capture.exchanges
  obtain ⟨sdk, s, hrun, hbind, -⟩ := (Session.start options).exists_run_eq capture
  obtain ⟨sdk', s', hrun', hbind', -⟩ := (Session.start options').exists_run_eq capture
  have hstart : (Session.start options).reset.Alongside (Session.start options').reset :=
    ⟨rfl, rfl, fun e he => absurd he List.not_mem_nil, fun e he => absurd he List.not_mem_nil⟩
  obtain ⟨_, _, _, _, hall, hall', hsame, hend⟩ :=
    hstart.bindAll hgroups.nonempty hgroups.readable
  rw [hbind] at hall
  rw [hbind'] at hall'
  cases hall
  cases hall'
  exact ⟨sdk, s, sdk', s', hrun, hrun', hsame, hend.fieldNames, hend.functionNames⟩

end TypedTraffic
