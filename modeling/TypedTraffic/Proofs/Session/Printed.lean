import TypedTraffic.Proofs.Sample.Notice
import TypedTraffic.Proofs.Session.Run
import TypedTraffic.Proofs.Terminal.Printed

/-!
# A run stops at what it cannot print

A notice cannot be printed if something stands in its line for half of a
surrogate pair. A run goes on as if every notice could be printed, up to the
first that cannot (`Session.runWith_eq`): it goes through the same sessions,
step by step, and notices are only added to those there are. So what is made of
a recording is what is made of its capture where every notice can be printed
(`Recording.generate_capture_eq`).

What stands for a half is no character of ASCII, and so it is printed exactly
if it is in the text of the notice (`Notice.isSome_fault?_line_iff`). The
notices of samples are in ASCII, since what is registered is registered under
a name in ASCII (`Session.registerBody_eq_ok`). What is left are the notices of
what is passed over.
-/

namespace TypedTraffic

open Naming Text

/-! ## What can be printed -/

section Reserved

variable {standIns : StandIns} (hreserved : ∀ standIn ∈ standIns, standIn.2 ∈ privateChars)

include hreserved

/-- What stands for a half is left to private use. -/
theorem lt_toNat_of_isSome_half? {c : Char} (h : (standIns.half? c).isSome = true) :
    127 < c.toNat := by
  obtain ⟨half, hmem⟩ := StandIns.isSome_half?_iff.mp h
  obtain ⟨n, hle, hlt, rfl⟩ := mem_charsFrom (hreserved _ hmem)
  rw [toNat_charOfNat (Or.inr ⟨by omega, by omega⟩)]
  omega

/-- **A notice cannot be printed** exactly if something stands in its text for
half of a surrogate pair. -/
theorem Notice.isSome_fault?_line_iff (n : Notice) : (standIns.fault? n.line).isSome = true
    ↔ ∃ c ∈ n.message.toList, (standIns.half? c).isSome = true := by
  have hseen : ∀ c, (standIns.half? c).isSome = true →
      (c ∈ n.line.toList ↔ c ∈ n.message.toList) := fun c hc => by
    have hbeyond := lt_toNat_of_isSome_half? hreserved hc
    rw [Notice.line, Terminal.mem_printed_iff hbeyond, Terminal.mem_visible_escape_iff hbeyond]
  rw [StandIns.isSome_fault?_iff]
  exact ⟨fun ⟨c, hmem, hc⟩ => ⟨c, (hseen c hc).mp hmem, hc⟩,
    fun ⟨c, hmem, hc⟩ => ⟨c, (hseen c hc).mpr hmem, hc⟩⟩

/-- A text in ASCII has no stand-in. -/
theorem Text.IsAscii.half?_eq_none {s : String} (h : IsAscii s) {c : Char} (hc : c ∈ s.toList) :
    standIns.half? c = none := by
  cases hhalf : standIns.half? c with
  | none => rfl
  | some half =>
    have hbeyond := lt_toNat_of_isSome_half? (c := c) hreserved (by rw [hhalf]; rfl)
    exact absurd (h c hc) (by omega)

/-- A notice in ASCII can be printed. -/
theorem Notice.fault?_line_eq_none {n : Notice} (h : IsAscii n.message) :
    standIns.fault? n.line = none := by
  rw [← Option.not_isSome_iff_eq_none, isSome_fault?_line_iff hreserved]
  rintro ⟨c, hc, hhalf⟩
  rw [h.half?_eq_none hreserved hc] at hhalf
  cases hhalf

end Reserved

/-! ### Responses that are passed over -/

theorem isAscii_byteText (b : UInt8) : IsAscii (Utf8.byteText b) := by
  have hdigit : ∀ n < 16,
      (if n < 10 then Char.ofNat (48 + n) else Char.ofNat (87 + n)).toNat < 128 := by
    decide
  have hb := b.toNat_lt
  intro c hc
  simp only [Utf8.byteText, String.toList_ofList, List.mem_cons, List.not_mem_nil, or_false] at hc
  rcases hc with rfl | rfl | rfl | rfl
  · decide
  · decide
  · exact hdigit _ (by omega)
  · exact hdigit _ (by omega)

theorem Text.Utf8.Fault.isAscii_message (f : Utf8.Fault) : IsAscii f.message := by
  have hkind : IsAscii f.kind.text := by cases f.kind <;> exact isAscii_ofList rfl
  unfold Utf8.Fault.message
  simp only
  refine (((isAscii_ofList rfl).append ?_).append (isAscii_ofList rfl)).append hkind
  split
  · exact (((isAscii_ofList rfl).append (isAscii_byteText _)).append (isAscii_ofList rfl)).append
      (isAscii_toString _)
  · exact (((isAscii_ofList rfl).append (isAscii_toString _)).append (isAscii_ofList rfl)).append
      (isAscii_toString _)

/-- Why a body is no text is said in ASCII. -/
theorem DecodingError.isAscii_message (e : DecodingError) : IsAscii e.message := by
  cases e with
  | encoding e =>
    cases e with
    | notAscii => exact isAscii_ofList rfl
    | leftOver count =>
      exact ((isAscii_ofList rfl).append (isAscii_toString count)).append (isAscii_ofList rfl)
    | padding => exact isAscii_ofList rfl
  | bytes fault => exact fault.isAscii_message

/-- **The notice of a response that is passed over** cannot be printed exactly
if something stands in the URL for half of a surrogate pair. -/
theorem isSome_fault?_responsePassedOver_iff {standIns : StandIns}
    (hreserved : ∀ standIn ∈ standIns, standIn.2 ∈ privateChars) (url : String)
    (cause : DecodingError) :
    (standIns.fault? (Notice.responsePassedOver url (.undecodable cause)).line).isSome = true
      ↔ ∃ c ∈ url.toList, (standIns.half? c).isSome = true := by
  have hfront : IsAscii "Failed to parse response for " := isAscii_ofList rfl
  have hback : IsAscii (": " ++ cause.message) := (isAscii_ofList rfl).append cause.isAscii_message
  have hmessage : (Notice.responsePassedOver url (.undecodable cause)).message
      = "Failed to parse response for " ++ url ++ (": " ++ cause.message) := String.append_assoc
  rw [Notice.isSome_fault?_line_iff hreserved, hmessage]
  constructor
  · rintro ⟨c, hc, hhalf⟩
    rw [String.toList_append, String.toList_append, List.mem_append, List.mem_append] at hc
    rcases hc with (hc | hc) | hc
    · rw [hfront.half?_eq_none hreserved hc] at hhalf
      cases hhalf
    · exact ⟨c, hc, hhalf⟩
    · rw [hback.half?_eq_none hreserved hc] at hhalf
      cases hhalf
  · rintro ⟨c, hc, hhalf⟩
    refine ⟨c, ?_, hhalf⟩
    rw [String.toList_append, String.toList_append]
    exact List.mem_append_left _ (List.mem_append_right _ hc)

namespace Session

variable (standIns : StandIns)

/-! ## The first notice that cannot be printed -/

/-- **The first notice that cannot be printed**, with those before it. -/
def unprinted? : List Notice → Option Unprinted
  | [] => none
  | n :: ns =>
    match standIns.fault? n.line with
    | some fault => some ⟨[], fault⟩
    | none => (unprinted? ns).map fun u => ⟨n :: u.earlier, u.fault⟩

/-- What is first stays first, whatever comes behind it. -/
theorem unprinted?_append_of_some {ns : List Notice} {u : Unprinted}
    (h : unprinted? standIns ns = some u) (later : List Notice) :
    unprinted? standIns (ns ++ later) = some u := by
  induction ns generalizing u with
  | nil => cases h
  | cons n ns ih =>
    rw [unprinted?] at h
    rw [List.cons_append, unprinted?]
    split
    · rename_i hfault
      simp only [hfault] at h
      exact h
    · rename_i hfault
      simp only [hfault] at h
      obtain ⟨v, hv, rfl⟩ := Option.map_eq_some_iff.mp h
      rw [ih hv]
      rfl

/-- Behind notices that can be printed the next is the first that may not
be. -/
theorem unprinted?_append_of_none {ns : List Notice} (h : unprinted? standIns ns = none)
    (later : List Notice) : unprinted? standIns (ns ++ later)
      = (unprinted? standIns later).map fun u => ⟨ns ++ u.earlier, u.fault⟩ := by
  induction ns with
  | nil => simp
  | cons n ns ih =>
    rw [unprinted?] at h
    rw [List.cons_append, unprinted?]
    cases hfault : standIns.fault? n.line with
    | some fault =>
      simp only [hfault] at h
      cases h
    | none =>
      simp only [hfault, Option.map_eq_none_iff] at h
      simp only [ih h, Option.map_map]
      rfl

theorem unprinted?_eq_none_iff {ns : List Notice} :
    unprinted? standIns ns = none ↔ ∀ n ∈ ns, standIns.fault? n.line = none := by
  induction ns with
  | nil => simp [unprinted?]
  | cons n ns ih =>
    rw [unprinted?, List.forall_mem_cons, ← ih]
    cases standIns.fault? n.line <;> simp

/-- The first that cannot be printed is found behind those that can. -/
theorem unprinted?_append_cons {ns later : List Notice} {n : Notice} {fault : EncodingFault}
    (h : ∀ m ∈ ns, standIns.fault? m.line = none) (hfault : standIns.fault? n.line = some fault) :
    unprinted? standIns (ns ++ n :: later) = some ⟨ns, fault⟩ := by
  rw [unprinted?_append_of_none standIns ((unprinted?_eq_none_iff standIns).mpr h), unprinted?,
    hfault]
  simp

/-- Among notices of which some can be printed anyhow, the first that cannot
is the first of the others. -/
theorem unprinted?_filter {ns : List Notice} {other : Notice → Bool}
    (h : ∀ n ∈ ns, other n = false → standIns.fault? n.line = none) :
    unprinted? standIns (ns.filter other)
      = (unprinted? standIns ns).map fun u => ⟨u.earlier.filter other, u.fault⟩ := by
  induction ns with
  | nil => rfl
  | cons n ns ih =>
    obtain ⟨hn, hns⟩ := List.forall_mem_cons.mp h
    rw [List.filter_cons, unprinted?]
    split
    · rename_i hother
      rw [unprinted?, ih hns]
      cases standIns.fault? n.line with
      | some fault => rfl
      | none => simp [Function.comp_def, hother]
    · rename_i hother
      rw [ih hns, hn (Bool.eq_false_iff.mpr hother)]
      simp [Function.comp_def, hother]

/-! ## Sessions whose notices are printed -/

/-- **What is left of a result**: it is kept if every notice of its session
can be printed. -/
def stopped {α : Type} (result : α × Session) : Except Unprinted (α × Session) :=
  match unprinted? standIns result.2.notices with
  | some u => .error u
  | none => .ok result

variable {standIns} {s s' : Session}

theorem stopped_of_none {α : Type} (a : α) (h : unprinted? standIns s.notices = none) :
    stopped standIns (a, s) = .ok (a, s) := by
  rw [stopped, h]

theorem stopped_of_some {α : Type} (a : α) {u : Unprinted}
    (h : unprinted? standIns s.notices = some u) : stopped standIns (a, s) = .error u := by
  rw [stopped, h]

section Steps

variable (hs : unprinted? standIns s.notices = none)

include hs

theorem note_eq_stopped (notice : Option Notice) : s.note standIns notice
    = (stopped standIns ((), s.registered [] notice.toList)).map Prod.snd := by
  unfold note stopped
  rw [notices_registered, unprinted?_append_of_none standIns hs]
  cases notice with
  | none => rfl
  | some n =>
    simp only [Option.bind_some, Option.toList_some, unprinted?]
    cases standIns.fault? n.line with
    | some fault => simp [Except.map]
    | none => rfl

theorem registerBody_eq_stopped (stem text : String) (mime : Option String) :
    s.registerBody standIns stem text mime
      = stopped standIns (.ok (s.ledger.answer (.body stem text mime)),
          s.registered [.body stem text mime] (s.sampleNotice? stem text mime).toList) := by
  rw [registerBody_eq, stopped]
  rw [notices_registered, unprinted?_append_of_none standIns hs]
  cases s.sampleNotice? stem text mime with
  | none => rfl
  | some n =>
    simp only [Option.bind_some, Option.toList_some, unprinted?]
    cases standIns.fault? n.line with
    | some fault => simp
    | none => rfl

/-! ## Runs whose notices are printed -/

/-- **A request** is as where every notice can be printed. -/
theorem requestStep_eq_stopped {stem type type' : String} {e : Exchange}
    (h : requestStep [] stem s type e = .ok (type', s')) :
    requestStep standIns stem s type e = stopped standIns (type', s') := by
  rw [requestStep_eq] at h ⊢
  rcases hbody : e.request.body with ⟨text?, mime⟩
  cases text? with
  | none =>
    simp only [hbody] at h ⊢
    cases h
    exact (stopped_of_none type hs).symm
  | some text =>
    simp only [hbody, registerBody_nil] at h ⊢
    cases h
    rw [registerBody_eq_stopped hs]
    cases hu : unprinted? standIns (s.registered [.body stem text mime]
      (s.sampleNotice? stem text mime).toList).notices with
    | none => rw [stopped_of_none _ hu, stopped_of_none _ hu]
    | some u => rw [stopped_of_some _ hu, stopped_of_some _ hu]

/-- **A response** is as where every notice can be printed. -/
theorem responseStep_eq_stopped {stem type type' : String} {e : Exchange}
    (h : responseStep [] stem s type e = .ok (type', s')) :
    responseStep standIns stem s type e = stopped standIns (type', s') := by
  rw [responseStep_eq] at h ⊢
  cases hresponse : e.response.body with
  | error cause =>
    simp only [hresponse] at h ⊢
    cases hnote : s.note [] (some (.responsePassedOver e.request.url (.undecodable cause))) with
    | error u =>
      rw [hnote] at h
      cases h
    | ok s₁ =>
      rw [hnote] at h
      cases h
      obtain rfl := note_spec hnote
      rw [note_eq_stopped hs]
      cases hu : unprinted? standIns (s.registered []
        (some (.responsePassedOver e.request.url (.undecodable cause))).toList).notices with
      | none =>
        rw [stopped_of_none _ hu, stopped_of_none _ hu]
        rfl
      | some u =>
        rw [stopped_of_some _ hu, stopped_of_some _ hu]
        rfl
  | ok content =>
    rcases content with ⟨text?, mime⟩
    simp only [hresponse] at h ⊢
    cases hnonempty : nonempty? text? with
    | none =>
      simp only [hnonempty] at h ⊢
      cases h
      exact (stopped_of_none type hs).symm
    | some text =>
      simp only [hnonempty, registerBody_nil] at h ⊢
      cases h
      rw [registerBody_eq_stopped hs]
      cases hu : unprinted? standIns (s.registered [.body stem text mime]
        (s.sampleNotice? stem text mime).toList).notices with
      | none => rw [stopped_of_none _ hu, stopped_of_none _ hu]
      | some u => rw [stopped_of_some _ hu, stopped_of_some _ hu]

end Steps

/-- **Some exchanges** are as where every notice can be printed, if each of
them is. -/
theorem typeAfter_eq_stopped {wrap : String → String}
    {registration? : Exchange → Option Registration} {free step : TypeStep}
    (hfree : Registers wrap registration? free)
    (hstep : ∀ ⦃s s' : Session⦄ ⦃type type' : String⦄ ⦃e : Exchange⦄,
      unprinted? standIns s.notices = none → free s type e = .ok (type', s') →
        step s type e = stopped standIns (type', s'))
    (hs : unprinted? standIns s.notices = none) {type type' : String} {es : List Exchange}
    (h : typeAfter free s type es = .ok (type', s')) :
    typeAfter step s type es = stopped standIns (type', s') := by
  induction es generalizing s type with
  | nil =>
    cases h
    exact (stopped_of_none _ hs).symm
  | cons e es ih =>
    rw [typeAfter] at h ⊢
    cases hfirst : free s type e with
    | error u =>
      rw [hfirst] at h
      cases h
    | ok answered =>
      obtain ⟨type₁, s₁⟩ := answered
      rw [hfirst] at h
      rw [hstep hs hfirst]
      cases hu : unprinted? standIns s₁.notices with
      | none =>
        rw [stopped_of_none _ hu]
        exact ih hu h
      | some u =>
        -- what is behind the first that cannot be printed makes no difference
        obtain ⟨-, notices, rfl⟩ := typeAfter_spec hfree h
        rw [stopped_of_some _ hu, stopped_of_some]
        exact unprinted?_append_of_some standIns hu notices

theorem bodyType_eq_stopped (hs : unprinted? standIns s.notices = none) {stem type : String}
    {es : List Exchange} (h : s.bodyType [] stem es = .ok (type, s')) :
    s.bodyType standIns stem es = stopped standIns (type, s') :=
  typeAfter_eq_stopped (registers_requestStep stem)
    (fun _ _ _ _ _ hs h => requestStep_eq_stopped hs h) hs h

theorem responseType_eq_stopped (hs : unprinted? standIns s.notices = none) {stem type : String}
    {es : List Exchange} (h : s.responseType [] stem es = .ok (type, s')) :
    s.responseType standIns stem es = stopped standIns (type, s') :=
  typeAfter_eq_stopped (registers_responseStep stem)
    (fun _ _ _ _ _ hs h => responseStep_eq_stopped hs h) hs h

/-- **A group** is bound as where every notice can be printed. -/
theorem bind_eq_stopped {g : EndpointGroup} {b : Binding}
    (hs : unprinted? standIns s.notices = none) (h : s.bind [] g = .ok (b, s')) :
    s.bind standIns g = (stopped standIns (b, s')).mapError .unprinted := by
  unfold bind at h ⊢
  split at h
  · cases h
  · split at h
    · cases h
    · simp only at h ⊢
      split at h
      · cases h
      · rename_i s₁ hparams
        have hs₁ : unprinted? standIns s₁.notices = none := by
          obtain ⟨fieldNames, types, rfl⟩ := exists_of_registerParams hparams
          exact hs
        split at h
        · cases h
        · rename_i s₂ hbody
          rw [bodyType_eq_stopped hs₁ hbody]
          split at h
          · cases h
          · rename_i s₃ hresponse
            cases h
            obtain ⟨-, notices, hs₃⟩ := responseType_spec hresponse
            cases hu : unprinted? standIns s₂.notices with
            | some u =>
              rw [stopped_of_some _ hu, stopped_of_some]
              · rfl
              · rw [hs₃]
                exact unprinted?_append_of_some standIns hu notices
            | none =>
              rw [stopped_of_none _ hu]
              simp only [responseType_eq_stopped hu hresponse]
              cases hu₃ : unprinted? standIns s₃.notices with
              | some u =>
                rw [stopped_of_some _ hu₃, stopped_of_some]
                · rfl
                · exact hu₃
              | none =>
                rw [stopped_of_none _ hu₃, stopped_of_none]
                · rfl
                · exact hu₃

/-- Binding a group puts notices behind those there are. -/
theorem prefix_notices_bind {g : EndpointGroup} {b : Binding}
    (h : s.bind standIns g = .ok (b, s')) : s.notices <+: s'.notices := by
  obtain ⟨_, _, s₁, s₂, s₃, hpasses⟩ := bind_eq_ok_iff.mp h
  obtain ⟨fieldNames, types, rfl⟩ := exists_of_registerParams hpasses.params
  obtain ⟨-, notices₂, rfl⟩ := bodyType_spec hpasses.requests
  obtain ⟨-, notices₃, rfl⟩ := responseType_spec hpasses.responses
  rw [hpasses.left]
  exact ⟨notices₂ ++ notices₃, (List.append_assoc _ _ _).symm⟩

theorem prefix_notices_bindAll {gs : List EndpointGroup} {bs : List Binding}
    (h : s.bindAll standIns gs = .ok (bs, s')) : s.notices <+: s'.notices := by
  induction gs generalizing s bs with
  | nil =>
    cases h
    exact List.prefix_rfl
  | cons g gs ih =>
    obtain ⟨b, bs', s₁, rfl, hbind, hrest⟩ := exists_of_bindAll_cons h
    exact (prefix_notices_bind hbind).trans (ih hrest)

/-- **Several groups** are bound as where every notice can be printed. -/
theorem bindAll_eq_stopped {gs : List EndpointGroup} {bs : List Binding}
    (hs : unprinted? standIns s.notices = none) (h : s.bindAll [] gs = .ok (bs, s')) :
    s.bindAll standIns gs = (stopped standIns (bs, s')).mapError .unprinted := by
  induction gs generalizing s bs with
  | nil =>
    cases h
    rw [stopped_of_none _ hs]
    rfl
  | cons g gs ih =>
    obtain ⟨b, bs', s₁, rfl, hbind, hrest⟩ := exists_of_bindAll_cons h
    rw [bindAll, bind_eq_stopped hs hbind]
    cases hu : unprinted? standIns s₁.notices with
    | some u =>
      obtain ⟨notices, hnotices⟩ := prefix_notices_bindAll hrest
      rw [stopped_of_some _ hu, stopped_of_some]
      · rfl
      · rw [← hnotices]
        exact unprinted?_append_of_some standIns hu notices
    | none =>
      rw [stopped_of_none _ hu]
      simp only [Except.mapError, ih hu hrest]
      cases hu' : unprinted? standIns s'.notices with
      | some u => rw [stopped_of_some _ hu', stopped_of_some _ hu']
      | none => rw [stopped_of_none _ hu', stopped_of_none _ hu']

/-- **A run stops at what it cannot print**, and is otherwise as where every
notice can be printed. -/
theorem runWith_eq (standIns : StandIns) (s : Session) (capture : Capture) :
    ∃ sdk final, s.run capture = .ok (sdk, final)
      ∧ s.runWith standIns capture =
        match unprinted? standIns final.notices with
        | some u => .error (.binding (.unprinted u))
        | none => .ok (sdk, final) := by
  obtain ⟨sdk, final, hrun, hbind, htypes⟩ := s.exists_run_eq capture
  refine ⟨sdk, final, hrun, ?_⟩
  -- a run starts without notices
  have hstart : unprinted? standIns s.reset.notices = none := rfl
  have hsdk : (⟨final.types.entries, sdk.bindings⟩ : Sdk) = sdk := by rw [← htypes]
  unfold runWith
  simp only [groupFault?_groupExchanges, bindAll_eq_stopped hstart hbind]
  cases hu : unprinted? standIns final.notices with
  | some u => rw [stopped_of_some _ hu]; rfl
  | none =>
    rw [stopped_of_none _ hu]
    exact congrArg (fun sdk => Except.ok (sdk, final)) hsdk

/-- What a run returns it returns where every notice can be printed. -/
theorem run_eq_of_runWith {capture : Capture} {sdk : Sdk} {final : Session}
    (h : s.runWith standIns capture = .ok (sdk, final)) : s.run capture = .ok (sdk, final) := by
  obtain ⟨sdk', final', hrun, hwith⟩ := runWith_eq standIns s capture
  rw [h] at hwith
  split at hwith
  · cases hwith
  · cases hwith
    exact hrun

/-! ## Names in ASCII -/

section Ascii

variable (hreserved : ∀ standIn ∈ standIns, standIn.2 ∈ privateChars) {stem : String}
  (hstem : IsAscii stem)

include hreserved hstem

/-- **The notice of a sample can be printed**, if the stem of its name is in
ASCII. -/
theorem fault?_line_sampleNotice? (s : Session) (text : String) (mime : Option String) :
    ∀ n ∈ s.sampleNotice? stem text mime, standIns.fault? n.line = none := by
  intro n hn
  obtain ⟨tail, hname, hdigits⟩ := s.ledger.candidate_eq (.body stem text mime)
  have hcandidate : IsAscii (s.ledger.candidate (.body stem text mime)) := by
    rw [hname]
    exact hstem.append (isAscii_of_isDigit hdigits)
  have habout : n.IsAbout (s.ledger.candidate (.body stem text mime)) :=
    Sample.isAbout_infer _ s.fieldNames (.text text) mime n hn
  exact Notice.fault?_line_eq_none hreserved (habout.isAscii_message hcandidate)

/-- **A body is registered** under a name in ASCII, and nothing gets in the
way. -/
theorem registerBody_eq_ok (s : Session) (text : String) (mime : Option String) :
    s.registerBody standIns stem text mime
      = .ok (.ok (s.ledger.answer (.body stem text mime)),
          s.registered [.body stem text mime] (s.sampleNotice? stem text mime).toList) := by
  have hprinted : (s.sampleNotice? stem text mime).bind (fun n => standIns.fault? n.line)
      = none := by
    rw [Option.bind_eq_none_iff]
    exact fault?_line_sampleNotice? hreserved hstem s text mime
  rw [registerBody_eq, hprinted]

end Ascii

end Session

/-- **What is made of a recording** is what is made of its capture where every
notice can be printed. -/
theorem Recording.generate_capture_eq {options : Options} {recording : Recording}
    {result : Session.Sdk × Session} (h : recording.generate options = .ok result) :
    TypedTraffic.generate options recording.capture = .ok result :=
  Session.run_eq_of_runWith h

/-- A prefix that is accepted is in ASCII. -/
theorem isAscii_of_acceptsPrefix {p : String} (h : Options.acceptsPrefix p = true) :
    IsAscii p := by
  have hprefix : ∀ {cs : List Char}, Options.isNamePrefix cs = true → ∀ c ∈ cs, c.toNat < 128 := by
    intro cs hcs c hc
    cases cs with
    | nil => exact absurd hc List.not_mem_nil
    | cons d cs =>
      rw [Options.isNamePrefix, Bool.and_eq_true] at hcs
      refine toNat_lt_of_isNameChar ?_
      rcases List.mem_cons.mp hc with rfl | hc
      · have hfirst := hcs.1
        simp only [Bool.or_eq_true] at hfirst
        simp only [isNameChar, isAlphanumeric, Bool.or_eq_true]
        exact hfirst.imp_left Or.inl
      · exact List.all_eq_true.mp hcs.2 c hc
  rw [Options.acceptsPrefix, Bool.or_eq_true, Bool.and_eq_true, beq_iff_eq] at h
  rcases h with h | ⟨hlast, h⟩
  · exact hprefix h
  · intro c hc
    rw [← List.dropLast_append_getLast? _ hlast, List.mem_append, List.mem_singleton] at hc
    rcases hc with hc | rfl
    · exact hprefix h c hc
    · decide

/-- The stems of a group are in ASCII, if the prefix is accepted. -/
theorem EndpointGroup.isAscii_stem {options : Options}
    (h : Options.acceptsPrefix options.typePrefix = true) (g : EndpointGroup) {role : String}
    (hrole : role ∈ roles) : IsAscii (g.stem options ++ role) :=
  ((isAscii_of_acceptsPrefix h).append
    (isAscii_of_isNameChar g.isTitle_resource.isNameChar)).append
    (isAscii_of_isNameChar (isTitle_of_mem_roles hrole).isNameChar)

end TypedTraffic
