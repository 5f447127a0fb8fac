import TypedTraffic.Proofs.Session.Printed

/-!
# A run completes, unless it cannot say what it passes over

Many steps of a run can fail: a URL may not be read, a name may be
refused, a body may be neither JSON nor a form, a group may be
inconsistent. In a run none of this gets in the way. The groups hold only
exchanges whose URLs can be read, a free name is still free when its
definition is registered, and a sample that is not understood leads to an
alias with a notice (`Sample.answered_infer`).

The only exchanges that are passed over are those whose response cannot be
decoded. Each has its notice, in the order of the groups
(`Session.passedOver_bindAll`). The notice names the URL, and this is what
can stop a run: it does at the first exchange whose response cannot be
decoded and whose URL holds half of a surrogate pair, and at nothing else
(`completes_generate`).
-/

namespace TypedTraffic

open Naming Text

/-- Whether the notice says that a body is passed over. -/
def Notice.isPassedOver : Notice → Bool
  | .requestPassedOver _ _ => true
  | .responsePassedOver _ _ => true
  | _ => false

theorem Notice.IsAbout.isPassedOver {name : String} {n : Notice} (h : n.IsAbout name) :
    n.isPassedOver = false := by
  cases h <;> rfl

/-! ## Samples -/

namespace Sample

/-- **A sample is answered**: its definition begins with the name it is
inferred under, and is an alias exactly if a notice says why. -/
structure Answered (name : String) (i : Inference) : Prop where
  /-- The name comes first. -/
  name : i.definition.name = name
  /-- An alias has a notice. -/
  notice : i.notice.isSome = i.definition.isAlias
  /-- The notice says what is wrong with the sample. -/
  about : ∀ n ∈ i.notice, n.IsAbout i.definition.name

variable (name : String) (names : FieldNames)

theorem name_formInterface {mode : Form.Mode} {name source : String} {names : FieldNames}
    {i : Interface} {names' : FieldNames}
    (h : formInterface mode name source names = .ok (i, names')) : i.name = name := by
  unfold formInterface at h
  split at h
  · cases h
  · cases h
  · cases h
    rfl

/-- The name comes first, and an alias has a notice. -/
theorem named_ofForm (payload : Payload) :
    (ofForm name payload names).definition.name = name
      ∧ (ofForm name payload names).notice.isSome
        = (ofForm name payload names).definition.isAlias := by
  unfold ofForm
  split
  · exact ⟨rfl, rfl⟩
  · split
    · rename_i heq
      exact ⟨name_formInterface heq, rfl⟩
    · exact ⟨rfl, rfl⟩

theorem named_ofJson (json : Json) :
    (ofJson name json names).definition.name = name
      ∧ (ofJson name json names).notice.isSome
        = (ofJson name json names).definition.isAlias := by
  unfold ofJson
  split
  · unfold ofObject
    split
    · exact ⟨rfl, rfl⟩
    · exact ⟨rfl, rfl⟩
  · exact ⟨rfl, rfl⟩

theorem named_ofText (source : String) :
    (ofText name source names).definition.name = name
      ∧ (ofText name source names).notice.isSome
        = (ofText name source names).definition.isAlias := by
  unfold ofText
  split
  · exact named_ofJson name names _
  · split
    · rename_i heq
      exact ⟨name_formInterface heq, rfl⟩
    · exact ⟨rfl, rfl⟩

/-- **Every sample is answered**, whatever the names of fields are. -/
theorem answered_infer (payload : Payload) (mime : Option String) :
    Answered name (infer name payload mime names) := by
  have hnamed : (infer name payload mime names).definition.name = name
      ∧ (infer name payload mime names).notice.isSome
        = (infer name payload mime names).definition.isAlias := by
    unfold infer
    split
    · exact named_ofForm name names payload
    · split
      · exact named_ofText name names _
      · exact named_ofJson name names _
  refine ⟨hnamed.1, hnamed.2, ?_⟩
  rw [hnamed.1]
  exact isAbout_infer name names payload mime

end Sample

/-! ## What is passed over -/

/-- The notice of an exchange whose response cannot be decoded. -/
def Exchange.undecodable? (e : Exchange) : Option Notice :=
  match e.response.body with
  | .error cause => some (.responsePassedOver e.request.url (.undecodable cause))
  | .ok _ => none

/-- The notices of the exchanges of a group whose responses cannot be
decoded. -/
def EndpointGroup.undecodable (g : EndpointGroup) : List Notice :=
  g.exchanges.filterMap Exchange.undecodable?

namespace Session

/-- **The notices of what is passed over.** -/
def passedOver (s : Session) : List Notice := s.notices.filter Notice.isPassedOver

variable {standIns : StandIns} {s s' : Session}

theorem passedOver_registered (s : Session) (rs : List Registration) (notices : List Notice) :
    (s.registered rs notices).passedOver = s.passedOver ++ notices.filter Notice.isPassedOver :=
  List.filter_append _ _

/-- The notice of a sample does not say that anything is passed over. -/
theorem isPassedOver_sampleNotice? (s : Session) (stem text : String) (mime : Option String) :
    ∀ n ∈ s.sampleNotice? stem text mime, n.isPassedOver = false :=
  fun n hn => (Sample.isAbout_infer _ s.fieldNames (.text text) mime n hn).isPassedOver

/-- **The notices that a step leaves**: one of the sample, if there is one, and
one that says what is passed over. -/
structure Leaves (stem : String) (passed? : Exchange → Option Notice) (step : TypeStep) :
    Prop where
  /-- The step leaves these notices, and no others. -/
  notices : ∀ ⦃s s' : Session⦄ ⦃type type' : String⦄ ⦃e : Exchange⦄,
    step s type e = .ok (type', s') → ∃ rs ns, s' = s.registered rs (ns ++ (passed? e).toList)
      ∧ ∀ n ∈ ns, ∃ text mime, n ∈ s.sampleNotice? stem text mime
  /-- The last one says that something is passed over. -/
  passed : ∀ e, ∀ n ∈ passed? e, n.isPassedOver = true

/-- No request is passed over, since none is refused. -/
theorem leaves_requestStep (stem : String) :
    Leaves stem (fun _ => none) (requestStep standIns stem) := by
  refine ⟨fun s s' type type' e h => ?_, fun _ _ hn => nomatch hn⟩
  rw [requestStep_eq] at h
  split at h
  · cases h
    exact ⟨[], [], s.registered_nil.symm, fun n hn => absurd hn List.not_mem_nil⟩
  · rename_i text mime _
    split at h
    · cases h
    · rename_i hbody
      cases h
      rw [(registerBody_spec hbody).2]
      exact ⟨_, _, by rw [Option.toList_none, List.append_nil],
        fun n hn => ⟨text, mime, Option.mem_toList.mp hn⟩⟩

/-- A response is passed over if it cannot be decoded. -/
theorem leaves_responseStep (stem : String) :
    Leaves stem Exchange.undecodable? (responseStep standIns stem) := by
  refine ⟨fun s s' type type' e h => ?_, fun e n hn => ?_⟩
  · rw [responseStep_eq] at h
    rw [Exchange.undecodable?]
    cases hresponse : e.response.body with
    | error cause =>
      simp only [hresponse] at h
      split at h
      · cases h
      · rename_i hnote
        cases h
        rw [note_spec hnote]
        exact ⟨[], [], rfl, fun n hn => absurd hn List.not_mem_nil⟩
    | ok body =>
      simp only [hresponse] at h
      split at h
      · cases h
        exact ⟨[], [], s.registered_nil.symm, fun n hn => absurd hn List.not_mem_nil⟩
      · rename_i text _
        split at h
        · cases h
        · rename_i hbody
          cases h
          rw [(registerBody_spec hbody).2]
          exact ⟨_, _, by rw [Option.toList_none, List.append_nil],
            fun n hn => ⟨text, _, Option.mem_toList.mp hn⟩⟩
  · rw [Exchange.undecodable?] at hn
    split at hn
    · cases hn
      rfl
    · cases hn

section Leaves

variable {stem type type' : String} {passed? : Exchange → Option Notice} {step : TypeStep}
  (hleaves : Leaves stem passed? step)

include hleaves

theorem Leaves.passedOver {e : Exchange} (h : step s type e = .ok (type', s')) :
    s'.passedOver = s.passedOver ++ (passed? e).toList := by
  obtain ⟨rs, ns, rfl, hns⟩ := hleaves.notices h
  have hsamples : ns.filter Notice.isPassedOver = [] := by
    rw [List.filter_eq_nil_iff]
    intro n hn
    obtain ⟨text, mime, hn⟩ := hns n hn
    rw [s.isPassedOver_sampleNotice? stem text mime n hn]
    exact Bool.false_ne_true
  have hpassed : (passed? e).toList.filter Notice.isPassedOver = (passed? e).toList :=
    List.filter_eq_self.mpr fun n hn => hleaves.passed e n (Option.mem_toList.mp hn)
  rw [passedOver_registered, List.filter_append, hsamples, hpassed, List.nil_append]

/-- **What is passed over of some exchanges** is what is passed over of
each. -/
theorem Leaves.passedOver_typeAfter {es : List Exchange}
    (h : typeAfter step s type es = .ok (type', s')) :
    s'.passedOver = s.passedOver ++ es.filterMap passed? := by
  induction es generalizing s type with
  | nil =>
    cases h
    exact (List.append_nil _).symm
  | cons e es ih =>
    rw [typeAfter] at h
    split at h
    · cases h
    · rename_i hfirst
      rw [ih h, hleaves.passedOver hfirst, List.append_assoc, List.filterMap_cons]
      cases passed? e <;> rfl

end Leaves

/-- **Binding a group** passes over what cannot be decoded in it. -/
theorem passedOver_bind {g : EndpointGroup} {b : Binding}
    (h : s.bind standIns g = .ok (b, s')) : s'.passedOver = s.passedOver ++ g.undecodable := by
  obtain ⟨_, _, s₁, s₂, s₃, hpasses⟩ := bind_eq_ok_iff.mp h
  obtain ⟨fieldNames, types, rfl⟩ := exists_of_registerParams hpasses.params
  have hrequests := (leaves_requestStep _).passedOver_typeAfter hpasses.requests
  have hresponses := (leaves_responseStep _).passedOver_typeAfter hpasses.responses
  rw [hrequests, List.filterMap_none, List.append_nil] at hresponses
  rw [hpasses.left]
  exact hresponses

/-- **Binding several groups** passes over what cannot be decoded in them,
in order. -/
theorem passedOver_bindAll {gs : List EndpointGroup} {bs : List Binding}
    (h : s.bindAll standIns gs = .ok (bs, s')) :
    s'.passedOver = s.passedOver ++ gs.flatMap EndpointGroup.undecodable := by
  induction gs generalizing s bs with
  | nil =>
    cases h
    exact (List.append_nil _).symm
  | cons g gs ih =>
    obtain ⟨b, bs', s₁, rfl, hbind, hrest⟩ := exists_of_bindAll_cons h
    rw [ih hrest, passedOver_bind hbind, List.flatMap_cons, List.append_assoc]

/-! ## What cannot be said -/

/-- **A session that can tell of every sample**: the notices of samples can be
printed. -/
structure Tells (standIns : StandIns) (s : Session) : Prop where
  /-- The prefix of types is accepted. -/
  accepted : Options.acceptsPrefix s.options.typePrefix = true
  /-- A notice that can not be printed says that something is passed over. -/
  told : ∀ n ∈ s.notices, n.isPassedOver = false → standIns.fault? n.line = none

theorem Tells.registered {printing : StandIns} (h : s.Tells printing) {rs : List Registration}
    {notices : List Notice}
    (hnotices : ∀ n ∈ notices, n.isPassedOver = false → printing.fault? n.line = none) :
    (s.registered rs notices).Tells printing := by
  refine ⟨h.accepted, fun n hn hpassed => ?_⟩
  rw [notices_registered, List.mem_append] at hn
  exact hn.elim (fun hn => h.told n hn hpassed) fun hn => hnotices n hn hpassed

section Reserved

variable {halves : StandIns} (hreserved : ∀ standIn ∈ halves, standIn.2 ∈ privateChars)

include hreserved

/-- **Some exchanges** add no notice of a sample that cannot be printed. -/
theorem Tells.typeAfter (hs : s.Tells halves) {stem type type' : String} {es : List Exchange}
    {passed? : Exchange → Option Notice} {step : TypeStep} (hleaves : Leaves stem passed? step)
    (hstem : IsAscii stem) (h : typeAfter step s type es = .ok (type', s')) :
    s'.Tells halves := by
  refine typeAfter_induction (fun s s' type type' e hs h => ?_) hs h
  obtain ⟨rs, ns, rfl, hns⟩ := hleaves.notices h
  refine hs.registered fun n hn hpassed => ?_
  rcases List.mem_append.mp hn with hn | hn
  · obtain ⟨text, mime, hn⟩ := hns n hn
    exact fault?_line_sampleNotice? hreserved hstem s text mime n hn
  · rw [hleaves.passed e n (Option.mem_toList.mp hn)] at hpassed
    cases hpassed

/-- **Binding a group** adds no notice of a sample that cannot be printed. -/
theorem Tells.bind (hs : s.Tells halves) {g : EndpointGroup} {b : Binding}
    (h : s.bind standIns g = .ok (b, s')) : s'.Tells halves := by
  obtain ⟨_, _, s₁, s₂, s₃, hpasses⟩ := bind_eq_ok_iff.mp h
  have hstem : ∀ role ∈ roles, IsAscii (g.stem s.options ++ role) :=
    fun role hrole => g.isAscii_stem hs.accepted hrole
  have hs₁ : s₁.Tells halves := by
    obtain ⟨fieldNames, types, rfl⟩ := exists_of_registerParams hpasses.params
    exact ⟨hs.accepted, hs.told⟩
  have hs₂ := hs₁.typeAfter hreserved (leaves_requestStep _) (hstem "Request" (by decide))
    hpasses.requests
  have hs₃ := hs₂.typeAfter hreserved (leaves_responseStep _) (hstem "Response" (by decide))
    hpasses.responses
  rw [hpasses.left]
  exact ⟨hs₃.accepted, hs₃.told⟩

theorem Tells.bindAll (hs : s.Tells halves) {gs : List EndpointGroup} {bs : List Binding}
    (h : s.bindAll standIns gs = .ok (bs, s')) : s'.Tells halves := by
  induction gs generalizing s bs with
  | nil =>
    cases h
    exact hs
  | cons g gs ih =>
    obtain ⟨b, bs', s₁, rfl, hbind, hrest⟩ := exists_of_bindAll_cons h
    exact ih (hs.bind hreserved hbind) hrest

end Reserved

end Session

/-- **An exchange of which the run cannot tell**: its response cannot be
decoded, and something stands in its URL for half of a surrogate pair. -/
def Exchange.Untold (standIns : StandIns) (e : Exchange) : Prop :=
  (∃ cause, e.response.body = .error cause)
    ∧ ∃ c ∈ e.request.url.toList, (standIns.half? c).isSome = true

section Untold

variable {recording : Recording} {e : Exchange}

/-- What cannot be told is a notice that cannot be printed. -/
theorem Exchange.untold_iff (recording : Recording) (e : Exchange) : e.Untold recording.standIns
    ↔ ∃ n, e.undecodable? = some n ∧ (recording.standIns.fault? n.line).isSome = true := by
  unfold Untold undecodable?
  cases e.response.body with
  | error cause =>
    rw [← isSome_fault?_responsePassedOver_iff recording.reserved e.request.url cause]
    simp
  | ok body => simp

theorem Exchange.fault?_line_of_not_untold (h : ¬ e.Untold recording.standIns) {n : Notice}
    (hn : e.undecodable? = some n) : recording.standIns.fault? n.line = none := by
  rw [← Option.not_isSome_iff_eq_none]
  exact fun hfault => h ((e.untold_iff recording).mpr ⟨n, hn, hfault⟩)

end Untold

/-! ## The run -/

/-- The exchanges of a capture that have an endpoint, in the order of their
groups. -/
def Capture.grouped (capture : Capture) : List Exchange :=
  (groupExchanges capture.exchanges).flatMap (·.exchanges)

namespace Session

variable {s : Session} (hs : Options.acceptsPrefix s.options.typePrefix = true)
  (recording : Recording)

include hs

/-- **What a run over a recording comes to**, from whatever session it starts.
It passes over the responses that cannot be decoded, nothing else, and goes on
unless there is one of which it cannot tell. -/
theorem runWith_spec : ∃ sdk final, s.run recording.capture = .ok (sdk, final)
    ∧ final.passedOver = recording.capture.grouped.filterMap Exchange.undecodable?
    ∧ ((∀ e ∈ recording.capture.grouped, ¬ e.Untold recording.standIns) →
        s.runWith recording.standIns recording.capture = .ok (sdk, final))
    ∧ ∀ earlier e later, recording.capture.grouped = earlier ++ e :: later →
        (∀ e' ∈ earlier, ¬ e'.Untold recording.standIns) → e.Untold recording.standIns →
        ∃ u, s.runWith recording.standIns recording.capture = .error (.binding (.unprinted u))
          ∧ u.earlier.filter Notice.isPassedOver = earlier.filterMap Exchange.undecodable? := by
  obtain ⟨sdk, final, hrun, hbind, -⟩ := s.exists_run_eq recording.capture
  obtain ⟨_, _, hrun', hwith⟩ := runWith_eq recording.standIns s recording.capture
  cases hrun.symm.trans hrun'
  have hpassed : final.passedOver
      = recording.capture.grouped.filterMap Exchange.undecodable? := by
    rw [passedOver_bindAll hbind, Capture.grouped, List.filterMap_flatMap]
    rfl
  have hstart : s.reset.Tells recording.standIns :=
    ⟨hs, fun n hn => absurd hn List.not_mem_nil⟩
  have htells := hstart.bindAll recording.reserved hbind
  -- of the notices only those of what is passed over may not be printed
  have hfirst := unprinted?_filter recording.standIns htells.told
  rw [← passedOver, hpassed] at hfirst
  refine ⟨sdk, final, hrun, hpassed, fun htold => ?_, fun earlier e later hsplit htold huntold => ?_⟩
  · have hnone : unprinted? recording.standIns
        (recording.capture.grouped.filterMap Exchange.undecodable?) = none := by
      rw [unprinted?_eq_none_iff]
      intro n hn
      obtain ⟨e, he, hn⟩ := List.mem_filterMap.mp hn
      exact Exchange.fault?_line_of_not_untold (htold e he) hn
    rw [hnone, eq_comm, Option.map_eq_none_iff] at hfirst
    rw [hwith, hfirst]
  · obtain ⟨n, hn, hfault⟩ := (e.untold_iff recording).mp huntold
    obtain ⟨fault, hfault⟩ := Option.isSome_iff_exists.mp hfault
    have hsome : unprinted? recording.standIns
        (recording.capture.grouped.filterMap Exchange.undecodable?)
        = some ⟨earlier.filterMap Exchange.undecodable?, fault⟩ := by
      rw [hsplit, List.filterMap_append, List.filterMap_cons_some hn]
      refine unprinted?_append_cons recording.standIns (fun m hm => ?_) hfault
      obtain ⟨e', he', hm⟩ := List.mem_filterMap.mp hm
      exact Exchange.fault?_line_of_not_untold (htold e' he') hm
    rw [hsome] at hfirst
    obtain ⟨u, hu, heq⟩ := Option.map_eq_some_iff.mp hfirst.symm
    refine ⟨u, by rw [hwith, hu], ?_⟩
    exact congrArg Unprinted.earlier heq

/-- **A group is bound** in a session whose notices are printed, if there is no
exchange in it of which the run cannot tell. -/
theorem exists_bind_eq_of_told (hprinted : ∀ n ∈ s.notices, recording.standIns.fault? n.line = none)
    {g : EndpointGroup} (hne : g.exchanges ≠ []) (hurl : ∀ e ∈ g.exchanges, e.Readable)
    (htold : ∀ e ∈ g.exchanges, ¬ e.Untold recording.standIns) :
    ∃ b s', s.bind recording.standIns g = .ok (b, s') := by
  obtain ⟨b, s', hbind⟩ := s.exists_bind_eq hne hurl
  have htells : s.Tells recording.standIns := ⟨hs, fun n hn _ => hprinted n hn⟩
  have hall : unprinted? recording.standIns s'.notices = none := by
    rw [unprinted?_eq_none_iff]
    intro n hn
    cases hpassed : n.isPassedOver with
    | false => exact (htells.bind recording.reserved hbind).told n hn hpassed
    | true =>
      have hmem : n ∈ s'.passedOver := List.mem_filter.mpr ⟨hn, hpassed⟩
      rw [passedOver_bind hbind, List.mem_append] at hmem
      rcases hmem with hmem | hmem
      · exact hprinted n (List.mem_filter.mp hmem).1
      · obtain ⟨e, he, hn⟩ := List.mem_filterMap.mp hmem
        exact Exchange.fault?_line_of_not_untold (htold e he) hn
  refine ⟨b, s', ?_⟩
  rw [bind_eq_stopped ((unprinted?_eq_none_iff _).mpr hprinted) hbind, stopped_of_none _ hall]
  rfl

end Session

/-- **A recording that is completed** under some options: whatever can fail
in a run over it succeeds, but for the notice of an exchange of which the run
cannot tell. -/
structure Recording.Completes (recording : Recording) (options : Options) : Prop where
  /-- The check of the groups finds no fault. -/
  consistent : groupFault? (groupExchanges recording.capture.exchanges) = none
  /-- The URLs in the groups can be read. -/
  readable : ∀ g ∈ groupExchanges recording.capture.exchanges, ∀ e ∈ g.exchanges,
    ∃ u, Url.parse e.request.url = .ok u
  /-- In every session, the type of the query parameters of a group is
  registered. -/
  params : ∀ g ∈ groupExchanges recording.capture.exchanges, ∀ (s : Session) (stem : String),
    ∃ name s', s.registerParams stem g.exchanges = .ok (name, s')
  /-- In every session, the type of a body of a group is registered. -/
  body : ∀ (g : EndpointGroup) (s : Session), ∀ role ∈ roles,
    ∀ (text : String) (mime : Option String), ∃ name s',
      s.registerBody recording.standIns (g.stem options ++ role) text mime = .ok (.ok name, s')
  /-- In every session whose notices are printed, a group is bound, if there is
  no exchange in it of which the run cannot tell. -/
  bound : ∀ g ∈ groupExchanges recording.capture.exchanges, ∀ s : Session,
    s.options = options → (∀ n ∈ s.notices, recording.standIns.fault? n.line = none) →
    (∀ e ∈ g.exchanges, ¬ e.Untold recording.standIns) →
    ∃ b s', s.bind recording.standIns g = .ok (b, s')
  /-- Every sample is answered. -/
  sample : ∀ (name : String) (payload : Payload) (mime : Option String) (names : FieldNames),
    Sample.Answered name (Sample.infer name payload mime names)
  /-- The run ends if there is no exchange of which it cannot tell. It passes
  over the responses that cannot be decoded, nothing else. -/
  run : (∀ e ∈ recording.capture.grouped, ¬ e.Untold recording.standIns) →
    ∃ sdk s, recording.generate options = .ok (sdk, s)
      ∧ s.passedOver = recording.capture.grouped.filterMap Exchange.undecodable?
  /-- Otherwise it stops at the first such exchange, having passed over what is
  in front of it. -/
  stop : ∀ earlier e later, recording.capture.grouped = earlier ++ e :: later →
    (∀ e' ∈ earlier, ¬ e'.Untold recording.standIns) → e.Untold recording.standIns →
    ∃ u, recording.generate options = .error (.binding (.unprinted u))
      ∧ u.earlier.filter Notice.isPassedOver = earlier.filterMap Exchange.undecodable?

/-- **Every recording is completed**, whatever the options are, unless there is
an exchange of which the run cannot tell. -/
theorem completes_generate {options : Options}
    (hstart : Options.acceptsPrefix options.typePrefix = true) (recording : Recording) :
    recording.Completes options := by
  have hgroups := wellGrouped_groupExchanges recording.capture.exchanges
  obtain ⟨sdk, final, -, hpassed, hrun, hstop⟩ :=
    Session.runWith_spec (s := Session.start options) hstart recording
  refine ⟨groupFault?_groupExchanges _, hgroups.readable, fun g hg s stem => ?_,
    fun g s role hrole text mime => ?_, fun g hg s hs hprinted htold => ?_,
    fun name payload mime names => Sample.answered_infer name names payload mime,
    fun htold => ⟨sdk, final, hrun htold, hpassed⟩, hstop⟩
  · exact ⟨_, _, s.registerParams_eq stem (hgroups.readable g hg)⟩
  · exact ⟨_, _, Session.registerBody_eq_ok recording.reserved (g.isAscii_stem hstart hrole) s
      text mime⟩
  · exact Session.exists_bind_eq_of_told (by rw [hs]; exact hstart) recording hprinted
      (hgroups.nonempty g hg) (hgroups.readable g hg) htold

/-- A recording of one exchange: its URL holds half of a surrogate pair, and
its response decodes to a byte that is no text. -/
def untold : Recording where
  capture := ⟨none, [⟨⟨"GET", "http://h/\uE000", [], none⟩,
    ⟨200, [], some ⟨none, some "/w==", some "base64"⟩⟩⟩]⟩
  standIns := [(.ofNat 0xD800, '\uE000')]
  reserved := by decide +kernel

/-- The run over it stops, and all else succeeds. -/
theorem completes_generate_untold : Options.acceptsPrefix Options.default.typePrefix = true
    ∧ untold.Completes Options.default :=
  ⟨by decide, completes_generate (by decide) untold⟩

/-- **A run may stop** at the notice of what it passes over. -/
theorem not_exists_generate_untold : ¬ ∀ (options : Options) (recording : Recording),
    Options.acceptsPrefix options.typePrefix = true →
    ∃ result, recording.generate options = .ok result := by
  intro h
  obtain ⟨result, hresult⟩ := h Options.default untold (by decide)
  have hstops : (untold.generate Options.default).isOk = false := by decide +kernel
  rw [hresult] at hstops
  cases hstops

/-- The recording is read from a document. -/
example : (Recording.load true ("\x7b\"log\":\x7b\"entries\":[\x7b\"request\":"
    ++ "\x7b\"url\":\"http://h/\\ud800\"\x7d,\"response\":\x7b\"status\":200,"
    ++ "\"content\":\x7b\"text\":\"/w==\",\"encoding\":\"base64\"\x7d\x7d\x7d]\x7d\x7d")).toOption
    = some untold := by
  decide +kernel

/-- An exchange whose URL cannot be read belongs to no group. -/
example : (Url.parse "http://[bad/x").isOk = false
    ∧ groupExchanges [.received "http://[bad/x" "\x7b\x7d"] = [] := by
  decide +kernel

end TypedTraffic
