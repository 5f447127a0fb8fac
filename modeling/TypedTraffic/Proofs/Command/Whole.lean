import TypedTraffic.Command.Run
import TypedTraffic.Proofs.Client.Encoded
import TypedTraffic.Proofs.Command.Stored

/-!
# A module is written whole

A command that does not end with exit code 0 leaves the files as they were,
apart from directories that are made on the way to a module, with one
exception: when a module has no bytes, since half of a surrogate pair stands
alone in it, its file has been emptied before that is noticed. A command
that generates a module and ends with exit code 0 has stored the module its
request leads to, under the options of the request. All other commands
change nothing at all (`stored_run`).
-/

namespace TypedTraffic.Command

/-- **What a request leads to**, in an environment: the recording it reads,
under its options, and the text of the module that is made from it. -/
inductive GenerateRequest.Makes (environment : Environment) (request : GenerateRequest) :
    Recording → String → Prop
  /-- The module of the run. -/
  | module {options : Options} {recording : Recording} {sdk : Session.Sdk} {session : Session}
    (hoptions : request.options environment.files = .ok options)
    (hcapture : environment.files.capture request.capture (!options.skipValidation)
      = .ok recording)
    (hgenerate : recording.generate options = .ok (sdk, session)) :
    Makes environment request recording
      (Client.moduleText environment.now (sdk.types.map (·.definition)) sdk.bindings)

/-! ## Outcomes that change nothing -/

/-- **An outcome without effect**: an exit code other than 0, and the files
as they are. -/
structure Outcome.Idle (files : Files) (o : Outcome) : Prop where
  /-- The command has not come to its end. -/
  exitCode : o.exitCode ≠ 0
  /-- Nothing changes. -/
  files : o.files = files

theorem Outcome.idle_failed (files : Files) (output message : String) :
    (failed files output message).Idle files :=
  ⟨Nat.one_ne_zero, rfl⟩

theorem Outcome.idle_interrupted (files : Files) (output : String) (e : Interruption) :
    (interrupted files output e).Idle files :=
  ⟨Nat.one_ne_zero, rfl⟩

theorem OptionsFault.idle_outcome (files : Files) (fault : OptionsFault) :
    (fault.outcome files).Idle files := by
  unfold OptionsFault.outcome
  split
  · exact Outcome.idle_interrupted _ _ _
  · exact Outcome.idle_failed _ _ _

theorem CaptureFault.idle_outcome (files : Files) (output : String) (fault : CaptureFault) :
    (fault.outcome files output).Idle files := by
  unfold CaptureFault.outcome
  split
  · exact Outcome.idle_failed _ _ _
  · exact Outcome.idle_interrupted _ _ _
  · exact Outcome.idle_interrupted _ _ _
  · exact Outcome.idle_failed _ _ _

theorem idle_runOutcome (files : Files) (output report : String) (e : Session.RunError) :
    (runOutcome files output report e).Idle files := by
  unfold runOutcome
  split
  · exact Outcome.idle_interrupted _ _ _
  · exact Outcome.idle_interrupted _ _ _
  · exact Outcome.idle_interrupted _ _ _

/-! ## Writing -/

/-- **What becomes of the files when a module is written**: the module is
stored, or an empty file because the module has no bytes, or nothing but
directories. -/
inductive Outcome.Writes (environment : Environment) (path : String) (standIns : Text.StandIns)
    (text : String) : Outcome → Prop
  /-- The module is stored. -/
  | stored {after : Files} {place : Place} {output : String} (hbytes : standIns.fault? text = none)
    (hplace : after.locate (Path.ofText path) = .ok place)
    (hstores : environment.files.Stores after place text.toUTF8.toList) :
    Writes environment path standIns text (.done after output)
  /-- The file is emptied. -/
  | emptied {after : Files} {place : Place} {output : String} {fault : Text.EncodingFault}
    (hfault : standIns.fault? text = some fault)
    (hplace : after.locate (Path.ofText path) = .ok place)
    (hstores : environment.files.Stores after place []) :
    Writes environment path standIns text
      (.interrupted after output (.encoding (.written fault)))
  /-- The file is not written. -/
  | refused {after : Files} {output message : String}
    (hgrows : environment.files.GrowsTo after) :
    Writes environment path standIns text (.failed after output message)

theorem writes_writeModule (environment : Environment) (path output : String)
    (standIns : Text.StandIns) (sdk : Session.Sdk) :
    (writeModule environment path output standIns sdk).Writes environment path standIns
      (Client.moduleText environment.now (sdk.types.map (·.definition)) sdk.bindings) := by
  rw [writeModule]
  generalize Client.moduleText environment.now (sdk.types.map (·.definition)) sdk.bindings = text
  rcases environment.files.write_cases path (bytesOf standIns text) with
    ⟨halt, hwrite, hgrows⟩ | ⟨after, place, hwrite, hplace, hstores⟩
  · simp only [hwrite]
    exact .refused hgrows
  · cases hfault : standIns.fault? text with
    | none =>
      simp only [hwrite]
      rw [bytesOf, hfault] at hstores
      exact .stored hfault hplace hstores
    | some fault =>
      simp only [hwrite]
      rw [bytesOf, hfault] at hstores
      exact .emptied hfault hplace hstores

/-! ## Commands -/

/-- **A request is without effect, or writes the module it leads to.** -/
theorem GenerateRequest.run_cases (environment : Environment) (request : GenerateRequest) :
    (request.run environment).Idle environment.files
      ∨ ∃ recording text, request.Makes environment recording text
        ∧ (request.run environment).Writes environment request.output recording.standIns text := by
  rw [GenerateRequest.run]
  cases hoptions : request.options environment.files with
  | error fault => exact Or.inl (fault.idle_outcome _)
  | ok options =>
    cases hcapture : environment.files.capture request.capture (!options.skipValidation) with
    | error fault =>
      simp only [hcapture]
      exact Or.inl (fault.idle_outcome _ _)
    | ok recording =>
      cases hgenerate : recording.generate options with
      | error e =>
        simp only [hcapture, hgenerate]
        exact Or.inl (idle_runOutcome _ _ _ _)
      | ok run =>
        obtain ⟨sdk, session⟩ := run
        simp only [hcapture, hgenerate]
        exact Or.inr ⟨recording, _, .module hoptions hcapture hgenerate,
          writes_writeModule _ _ _ _ _⟩

/-- A module that is made, but has no bytes, leaves an empty file. -/
theorem GenerateRequest.exists_run_eq_interrupted {environment : Environment}
    (request : GenerateRequest) {options : Options} {recording : Recording} {sdk : Session.Sdk}
    {session : Session} {fault : Text.EncodingFault} {after : Files}
    (hoptions : request.options environment.files = .ok options)
    (hcapture : environment.files.capture request.capture (!options.skipValidation)
      = .ok recording)
    (hgenerate : recording.generate options = .ok (sdk, session))
    (hfault : recording.standIns.fault? (Client.moduleText environment.now
      (sdk.types.map (·.definition)) sdk.bindings) = some fault)
    (hwrite : environment.files.write request.output [] = .ok after) :
    ∃ output, request.run environment
      = .interrupted after output (.encoding (.written fault)) := by
  have hbytes : bytesOf recording.standIns (Client.moduleText environment.now
      (sdk.types.map (·.definition)) sdk.bindings) = [] := by
    rw [bytesOf, hfault]
    rfl
  rw [GenerateRequest.run]
  simp only [hoptions, hcapture, hgenerate, writeModule, hbytes, hwrite, hfault]
  exact ⟨_, rfl⟩

theorem files_inspect (environment : Environment) (path : String) :
    (inspect environment path).files = environment.files := by
  unfold inspect
  split
  · exact (CaptureFault.idle_outcome _ _ _).files
  · simp only
    split <;> rfl

/-- **A command line makes a request for a module**, and its outcome is that
of the request, or it changes nothing. -/
theorem run_eq_or_files_eq (environment : Environment) (args : List String) :
    (∃ request,
        readRequest environment.defined environment.files args = .ok (.generate request)
          ∧ run environment args = request.run environment)
      ∨ (∀ request,
        readRequest environment.defined environment.files args ≠ .ok (.generate request))
          ∧ (run environment args).files = environment.files := by
  rw [run]
  cases readRequest environment.defined environment.files args with
  | error e => exact Or.inr ⟨fun _ h => (nomatch h), rfl⟩
  | ok request =>
    cases request with
    | generate request => exact Or.inl ⟨request, rfl, rfl⟩
    | print text => exact Or.inr ⟨fun _ h => (nomatch h), rfl⟩
    | inspect path => exact Or.inr ⟨fun _ h => (nomatch h), files_inspect _ _⟩

/-- **A module is written whole.** For every command line in every
environment: with an exit code other than 0, nothing has changed but that
directories were added, or the file of a module that has no bytes is empty;
with exit code 0, a request for a module has stored the module it leads to;
and what is no request for a module changes nothing. -/
theorem stored_run (environment : Environment) (args : List String) :
    ((run environment args).exitCode ≠ 0 →
        environment.files.GrowsTo (run environment args).files
          ∨ ∃ request recording text place fault,
            readRequest environment.defined environment.files args = .ok (.generate request)
              ∧ request.Makes environment recording text
              ∧ recording.standIns.fault? text = some fault
              ∧ (run environment args).interruption = some (.encoding (.written fault))
              ∧ (run environment args).files.locate (Path.ofText request.output) = .ok place
              ∧ environment.files.Stores (run environment args).files place [])
      ∧ (∀ request,
        readRequest environment.defined environment.files args = .ok (.generate request) →
          (run environment args).exitCode = 0 →
            ∃ recording text place, request.Makes environment recording text
              ∧ (run environment args).files.locate (Path.ofText request.output) = .ok place
              ∧ environment.files.Stores (run environment args).files place text.toUTF8.toList)
      ∧ ((∀ request,
        readRequest environment.defined environment.files args ≠ .ok (.generate request)) →
          (run environment args).files = environment.files) := by
  rcases run_eq_or_files_eq environment args with ⟨request, hrequest, hrun⟩ | ⟨hno, hfiles⟩
  · refine ⟨fun hcode => ?_, fun request' hrequest' hcode => ?_,
      fun hno => absurd hrequest (hno request)⟩
    · rw [hrun] at hcode ⊢
      rcases request.run_cases environment with hidle | ⟨recording, text, hmakes, hwrites⟩
      · rw [hidle.files]
        exact Or.inl (.refl _)
      · generalize request.run environment = o at hcode hwrites ⊢
        cases hwrites with
        | stored hbytes hplace hstores => exact absurd rfl hcode
        | emptied hfault hplace hstores =>
          exact Or.inr
            ⟨request, recording, text, _, _, hrequest, hmakes, hfault, rfl, hplace, hstores⟩
        | refused hgrows => exact Or.inl hgrows
    · obtain rfl := Request.generate.inj (Except.ok.inj (hrequest.symm.trans hrequest'))
      rw [hrun] at hcode ⊢
      rcases request.run_cases environment with hidle | ⟨recording, text, hmakes, hwrites⟩
      · exact absurd hcode hidle.exitCode
      · generalize request.run environment = o at hcode hwrites ⊢
        cases hwrites with
        | stored hbytes hplace hstores => exact ⟨recording, text, _, hmakes, hplace, hstores⟩
        | emptied hfault hplace hstores => exact absurd hcode Nat.one_ne_zero
        | refused hgrows => exact absurd hcode Nat.one_ne_zero
  · refine ⟨fun _ => Or.inl ?_, fun request hrequest => absurd hrequest (hno request),
      fun _ => hfiles⟩
    rw [hfiles]
    exact .refl _

/-! ## A module that is not encoded -/

/-- A capture in which half of a surrogate pair is the value of a header. -/
def halvedText : String :=
  "\x7b\"log\":\x7b\"entries\":[\x7b\"request\":\x7b\"url\":\"http://a\","
    ++ "\"headers\":[\x7b\"name\":\"N\",\"value\":\"\\ud800\"\x7d]\x7d\x7d]\x7d\x7d"

/-- A directory with this capture. -/
def halved : Environment where
  files := [(["c.har"], .file halvedText.toUTF8.toList)]
  defined := []
  now := "2026-01-01T00:00:00+00:00"

/-- The request to generate a module from it. -/
def halvedRequest : GenerateRequest := ⟨"c.har", "out.ts", none, []⟩

/-- What is recorded there. -/
def halvedRecording : Recording where
  capture := ⟨none, [⟨⟨"GET", "http://a", [⟨"N", "\uE000"⟩], none⟩, Response.default⟩]⟩
  standIns := [(⟨0xD800, by decide⟩, '\uE000')]
  reserved := by decide +kernel

theorem capture_halved : halved.files.capture "c.har" true = .ok halvedRecording := by
  have h : (halved.files.capture "c.har" true).toOption = some halvedRecording := by decide +kernel
  cases hcapture : halved.files.capture "c.har" true with
  | error fault => rw [hcapture] at h; cases h
  | ok recording => rw [hcapture] at h; exact congrArg Except.ok (Option.some.inj h)

/-- The run over it returns and sends the header along. -/
theorem generate_halved : ∃ sdk session,
    halvedRecording.generate Options.default = .ok (sdk, session)
      ∧ ∃ b ∈ sdk.bindings, ⟨"N", "\uE000"⟩ ∈ b.headers := by
  have h : (halvedRecording.generate Options.default).toOption.map
      (fun run => run.1.bindings.map (·.headers)) = some [[⟨"N", "\uE000"⟩]] := by
    decide +kernel
  cases hgenerate : halvedRecording.generate Options.default with
  | error e => rw [hgenerate] at h; cases h
  | ok run =>
    rw [hgenerate] at h
    have hheaders : run.1.bindings.map (·.headers) = [[⟨"N", "\uE000"⟩]] := Option.some.inj h
    have hmem : [⟨"N", "\uE000"⟩] ∈ run.1.bindings.map (·.headers) := by
      rw [hheaders]
      exact List.mem_singleton_self _
    obtain ⟨b, hb, hb'⟩ := List.mem_map.mp hmem
    exact ⟨run.1, run.2, rfl, b, hb, by rw [hb']; exact List.mem_singleton_self _⟩

/-- The file of the module is there in the end, but nothing is in it. -/
theorem run_halved : (run halved ["generate", "c.har", "-o", "out.ts"]).exitCode = 1
    ∧ (run halved ["generate", "c.har", "-o", "out.ts"]).files
      = halved.files.set ["out.ts"] (.file []) := by
  have hrequest : readRequest halved.defined halved.files ["generate", "c.har", "-o", "out.ts"]
      = .ok (.generate halvedRequest) := rfl
  have hrun : run halved ["generate", "c.har", "-o", "out.ts"] = halvedRequest.run halved := by
    rw [run, hrequest]
  obtain ⟨sdk, session, hgenerate, b, hb, hh⟩ := generate_halved
  have hsome : (halvedRecording.standIns.fault? (Client.moduleText halved.now
      (sdk.types.map (·.definition)) sdk.bindings)).isSome = true :=
    Client.isSome_fault?_moduleText (c := '\uE000') _ _ hb hh (by decide) (by decide) (by decide)
  obtain ⟨fault, hfault⟩ := Option.isSome_iff_exists.mp hsome
  have hwrite : halved.files.write halvedRequest.output []
      = .ok (halved.files.set ["out.ts"] (.file [])) := rfl
  obtain ⟨printed, hinterrupted⟩ := halvedRequest.exists_run_eq_interrupted
    (rfl : halvedRequest.options halved.files = .ok Options.default) capture_halved hgenerate
    hfault hwrite
  rw [hrun, hinterrupted]
  exact ⟨rfl, rfl⟩

/-- **A file can be made by a command that breaks off.** -/
theorem not_keepsFiles_halved : ¬ ∀ (environment : Environment) (args : List String),
    (run environment args).exitCode ≠ 0 →
      environment.files.KeepsFiles (run environment args).files := by
  intro h
  obtain ⟨hcode, hfiles⟩ := run_halved
  have hkept := h halved ["generate", "c.har", "-o", "out.ts"] (by rw [hcode]; decide)
    ["out.ts"] []
  rw [hfiles, Files.entryAt?_set _ (by decide), if_pos rfl] at hkept
  exact absurd (hkept.mp rfl) (by decide)

end TypedTraffic.Command
