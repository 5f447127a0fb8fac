import TypedTraffic.Command.Run
import TypedTraffic.Proofs.Session.Run
import TypedTraffic.Proofs.Terminal.Printed

/-!
# What comes of a file that holds no capture

A command that reads a capture has an answer for most files that hold
none: it ends with exit code 1, and a line that begins with `Error: ` says
why. There is no answer for a file that is **illegible**: its bytes are not
UTF-8, or its text is JSON beyond the limits of the reader. Such a file
breaks the command off (`reported_run`).

Every other file is reported or read, and what follows the reading does not
fail: a run over a capture ends, and a module that is not written is
reported too. Of a document in which half of a surrogate pair stands alone
only the reading is spoken of here, since no text that is printed or written
can hold it.
-/

namespace TypedTraffic

/-! ## Files that hold no capture -/

/-- **A value whose strings are texts**: in none of them half of a surrogate
pair stands alone. -/
inductive Json.Textual : Json → Prop
  /-- Nothing. -/
  | null : Textual .null
  /-- A truth value. -/
  | bool (value : Bool) : Textual (.bool value)
  /-- A number. -/
  | number (value : Json.Number) : Textual (.number value)
  /-- A text. -/
  | string (s : String) : Textual (.string (codePoints s))
  /-- A list of such values. -/
  | array {items : List Json} (h : ∀ v ∈ items, v.Textual) : Textual (.array items)
  /-- Such values by key. -/
  | object {members : List (List CodePoint × Json)} (h : ∀ m ∈ members, m.2.Textual) :
    Textual (.object members)

/-- No half of a surrogate pair stands alone in a value of texts. -/
theorem Json.Textual.isHalf_eq_false {value : Json} (h : value.Textual) :
    ∀ p ∈ value.points, Text.isHalf p = false := by
  induction h with
  | null => exact List.forall_mem_nil _
  | bool value => exact List.forall_mem_nil _
  | number value => exact List.forall_mem_nil _
  | string s =>
    intro p hp
    obtain ⟨c, -, rfl⟩ := List.mem_map.mp hp
    exact Text.isHalf_ofChar c
  | array _ ih =>
    intro p hp
    obtain ⟨item, hitem, hp⟩ := Json.mem_itemsPoints.mp hp
    exact ih item hitem p hp
  | object _ ih =>
    intro p hp
    obtain ⟨member, hmember, hp⟩ := Json.mem_membersPoints.mp hp
    exact ih member hmember p hp

/-- Whether a limit of the reader is exceeded. -/
def Json.Error.isLimit : Json.Error → Bool
  | .malformed _ _ _ _ => false
  | _ => true

namespace Command

/-- The text of a capture, as it is read off a text with any line ends. -/
def sourceOf (text : String) : String := String.ofList (Text.unified text.toList)

/-- **Bytes that no command has an answer for**: they are not UTF-8, or
their text exceeds a limit of the reader. -/
inductive Illegible (bytes : List UInt8) : Prop
  /-- The bytes are not UTF-8. -/
  | encoding {fault : Text.Utf8.Fault} (h : Text.Utf8.decode bytes = .error fault)
  /-- The text exceeds a limit. -/
  | limit {text : String} {e : Json.Error} (htext : Text.Utf8.decode bytes = .ok text)
    (hparse : Json.parse (sourceOf text) = .error e) (he : e.isLimit = true)

/-- **Bytes that can be read**: they are the UTF-8 of a text that is not
JSON, or is a JSON document of texts. -/
inductive Legible (bytes : List UInt8) : Prop
  /-- The text is not JSON. -/
  | malformed {text : String} {e : Json.Error} (htext : Text.Utf8.decode bytes = .ok text)
    (hparse : Json.parse (sourceOf text) = .error e) (he : e.isLimit = false)
  /-- The text is a document. -/
  | document {text : String} {document : Json} (htext : Text.Utf8.decode bytes = .ok text)
    (hparse : Json.parse (sourceOf text) = .ok document) (hdocument : document.Textual)

/-- The bytes of an empty object are legible. -/
example : Legible [0x7B, 0x7D] := by
  have htext : Text.Utf8.decode [0x7B, 0x7D] = .ok "\x7b\x7d" := by decide +kernel
  have hparse : Json.parse (sourceOf "\x7b\x7d") = .ok (.object []) := by decide +kernel
  exact .document htext hparse (.object (List.forall_mem_nil _))

/-- What can be read is not illegible. -/
theorem Legible.not_illegible {bytes : List UInt8} (h : Legible bytes) : ¬ Illegible bytes := by
  rintro (⟨hfault⟩ | ⟨htext', hparse', he'⟩)
  · cases h with
    | malformed htext hparse he => rw [htext] at hfault; cases hfault
    | document htext hparse hdocument => rw [htext] at hfault; cases hfault
  · cases h with
    | malformed htext hparse he =>
      obtain rfl := Except.ok.inj (htext.symm.trans htext')
      obtain rfl := Except.error.inj (hparse.symm.trans hparse')
      rw [he] at he'
      cases he'
    | document htext hparse hdocument =>
      obtain rfl := Except.ok.inj (htext.symm.trans htext')
      rw [hparse] at hparse'
      cases hparse'

/-- Whether a fault breaks a command off. -/
def CaptureFault.breaksOff : CaptureFault → Bool
  | .encoding _ => true
  | .load (.limit _) => true
  | _ => false

/-- **Illegible bytes break the loading off.** -/
theorem exists_breaksOff_of_illegible {files : Files} {path : String} {bytes : List UInt8}
    (hread : files.read path = .ok bytes) (outline : Bool) (h : Illegible bytes) :
    ∃ fault, files.capture path outline = .error fault ∧ fault.breaksOff = true := by
  rw [Files.capture, hread]
  cases h with
  | encoding h =>
    simp only [h]
    exact ⟨_, rfl, rfl⟩
  | @limit text e htext hparse he =>
    have hload : Recording.load outline (sourceOf text) = .error (.limit e) := by
      rw [Recording.load, hparse]
      cases e with
      | malformed kind line column offset => cases he
      | tooManyDigits count => rfl
      | tooDeep container => rfl
    rw [sourceOf] at hload
    simp only [htext, hload]
    exact ⟨_, rfl, rfl⟩

/-- A limit that breaks the loading off is one of the reader. -/
theorem parse_of_load_limit {outline : Bool} {source : String} {e : Json.Error}
    (h : Recording.load outline source = .error (.limit e)) :
    Json.parse source = .error e ∧ e.isLimit = true := by
  unfold Recording.load at h
  split at h
  · cases h
  · rename_i hmalformed heq
    cases h
    refine ⟨heq, ?_⟩
    cases e with
    | malformed kind line column offset => exact absurd rfl (hmalformed kind line column offset)
    | tooManyDigits count => rfl
    | tooDeep container => rfl
  · split at h
    · cases h
    · split at h <;> cases h

/-- **Only illegible bytes break the loading off.** -/
theorem illegible_of_breaksOff {files : Files} {path : String} {bytes : List UInt8}
    (hread : files.read path = .ok bytes) {outline : Bool} {fault : CaptureFault}
    (h : files.capture path outline = .error fault) (hbreaks : fault.breaksOff = true) :
    Illegible bytes := by
  rw [Files.capture, hread] at h
  simp only at h
  split at h
  · rename_i hdecode
    exact .encoding hdecode
  · rename_i text htext
    split at h
    · rename_i e hload
      cases h
      cases e with
      | limit e =>
        obtain ⟨hparse, he⟩ := parse_of_load_limit hload
        exact .limit htext hparse he
      | notJson kind line column offset => cases hbreaks
      | outline fault => cases hbreaks
      | fields errors => cases hbreaks
    · cases h

/-- The stand-ins of a recording are those of its document. -/
theorem exists_parse_of_load {outline : Bool} {source : String} {recording : Recording}
    (h : Recording.load outline source = .ok recording) :
    ∃ document, Json.parse source = .ok document ∧ recording.standIns = document.standIns := by
  unfold Recording.load at h
  split at h
  · cases h
  · cases h
  · rename_i document hparse
    split at h
    · cases h
    · split at h
      · rename_i hrecording
        cases h
        exact ⟨document, hparse, Recording.standIns_of_ofDocument hrecording⟩
      · cases h

/-- **Nothing stands in for anything in a capture from legible bytes.** -/
theorem Legible.standIns_eq_nil {files : Files} {path : String} {bytes : List UInt8}
    (hread : files.read path = .ok bytes) (h : Legible bytes) {outline : Bool}
    {recording : Recording} (hcapture : files.capture path outline = .ok recording) :
    recording.standIns = [] := by
  have hload : ∀ {text : String}, Text.Utf8.decode bytes = .ok text →
      Recording.load outline (sourceOf text) = .ok recording := by
    intro text htext
    rw [Files.capture, hread] at hcapture
    simp only [htext] at hcapture
    split at hcapture
    · cases hcapture
    · rename_i hload
      cases hcapture
      exact hload
  cases h with
  | malformed htext hparse he =>
    obtain ⟨document, hdocument, -⟩ := exists_parse_of_load (hload htext)
    rw [hparse] at hdocument
    cases hdocument
  | @document text document htext hparse hdocument =>
    obtain ⟨document', hparse', hstandIns⟩ := exists_parse_of_load (hload htext)
    obtain rfl := Except.ok.inj (hparse.symm.trans hparse')
    rw [hstandIns]
    exact Json.standIns_eq_nil hdocument.isHalf_eq_false

/-! ## Outcomes -/

/-- **An outcome that is reported**: nothing breaks the command off, and it
ends with exit code 0, or with exit code 1 and an error that is printed. -/
structure Outcome.Reported (o : Outcome) : Prop where
  /-- Nothing breaks the command off. -/
  uninterrupted : o.interruption = none
  /-- The exit code is 0, or it is 1 and an error is printed. -/
  answered : o.exitCode = 0
    ∨ o.exitCode = 1 ∧ ∃ said message, o.output = said ++ "Error: " ++ message

/-- The line of an error begins as one. -/
theorem Outcome.exists_errorLine_eq (message : String) :
    ∃ rest, errorLine message = "Error: " ++ rest := by
  have hplain : ∀ c ∈ "Error: ".toList, Terminal.isPlain c = true := by decide
  exact Terminal.exists_printed_eq hplain rfl

theorem Outcome.reported_done (files : Files) (output : String) : (done files output).Reported :=
  ⟨rfl, Or.inl rfl⟩

theorem Outcome.reported_failed (files : Files) (output message : String) :
    (failed files output message).Reported := by
  obtain ⟨rest, hrest⟩ := exists_errorLine_eq message
  exact ⟨rfl, Or.inr ⟨rfl, output, rest, by rw [failed, hrest, String.append_assoc]⟩⟩

theorem Outcome.not_reported_interrupted (files : Files) (output : String) (e : Interruption) :
    ¬ (interrupted files output e).Reported :=
  fun h => nomatch h.uninterrupted

/-- **A fault is reported** exactly if it does not break the command off. -/
theorem CaptureFault.reported_outcome_iff (files : Files) (output : String)
    (fault : CaptureFault) :
    (fault.outcome files output).Reported ↔ fault.breaksOff = false := by
  cases fault with
  | file fault => exact iff_of_true (Outcome.reported_failed _ _ _) rfl
  | encoding fault =>
    exact iff_of_false (Outcome.not_reported_interrupted _ _ _) (by simp [breaksOff])
  | load e =>
    cases e with
    | limit e => exact iff_of_false (Outcome.not_reported_interrupted _ _ _) (by simp [breaksOff])
    | notJson kind line column offset => exact iff_of_true (Outcome.reported_failed _ _ _) rfl
    | outline fault => exact iff_of_true (Outcome.reported_failed _ _ _) rfl
    | fields errors => exact iff_of_true (Outcome.reported_failed _ _ _) rfl

/-- Writing a module of texts is reported. -/
theorem reported_writeModule (environment : Environment) (path output : String)
    (sdk : Session.Sdk) : (writeModule environment path output [] sdk).Reported := by
  simp only [writeModule, Text.StandIns.fault?_nil]
  split
  · exact Outcome.reported_failed _ _ _
  · rename_i heq
    cases heq
  · exact Outcome.reported_done _ _

/-! ## Commands -/

/-- **A request that reads the capture at a path**, with options that are
valid and say whether the outline is checked. -/
inductive Request.Reads (files : Files) : Request → String → Bool → Prop
  /-- A module is generated. -/
  | generate {request : GenerateRequest} {options : Options}
    (h : request.options files = .ok options) :
    Reads files (.generate request) request.capture (!options.skipValidation)
  /-- The endpoints are listed. -/
  | inspect (path : String) : Reads files (.inspect path) path true

/-- The capture of a command line without fault is a file. -/
theorem exists_at?_of_argumentsFault? {defined : Variables} {files : Files}
    {arguments : Arguments} {flags : List Flag}
    (h : argumentsFault? defined files arguments flags = none) :
    ∃ bytes, files.at? (arguments.plain.head?.getD "") = some (.file bytes) := by
  have hcapture : parameterFault? defined files arguments .capture = none := by
    unfold argumentsFault? at h
    split at h
    · cases h
    · rename_i hnone
      refine List.findSome?_eq_none_iff.mp hnone .capture ?_
      rw [parameterOrder, Ordered.mem_distinct]
      simp
  rw [parameterFault?] at hcapture
  split at hcapture
  · cases hcapture
  · rename_i path rest hplain
    rw [hplain]
    unfold fileFault? at hcapture
    split at hcapture
    · cases hcapture
    · cases hcapture
    · rename_i bytes hbytes
      exact ⟨bytes, hbytes⟩

/-- **The capture that a request reads is a file.** -/
theorem exists_read_of_readRequest {defined : Variables} {files : Files} {args : List String}
    {request : Request} {path : String} {outline : Bool}
    (h : readRequest defined files args = .ok request)
    (hreads : request.Reads files path outline) : ∃ bytes, files.read path = .ok bytes := by
  have hcommand : ∀ scope args, readCommand defined files scope args = .ok request →
      ∃ bytes, files.at? path = some (.file bytes) := by
    intro scope args h
    unfold readCommand at h
    split at h
    · cases h
    · split at h
      · cases h
        cases hreads
      · split at h
        · cases h
        · rename_i arguments _ _ hnone
          obtain ⟨bytes, hbytes⟩ := exists_at?_of_argumentsFault? hnone
          cases scope <;> cases h <;> cases hreads <;> exact ⟨bytes, hbytes⟩
  have hfile : ∃ bytes, files.at? path = some (.file bytes) := by
    unfold readRequest at h
    split at h
    · cases h
    · split at h
      · cases h
      · cases h
        cases hreads
      · cases h
      · split at h
        · exact hcommand _ _ h
        · split at h
          · exact hcommand _ _ h
          · -- what is answered for a name of no command reads no capture
            unfold readUnknown at h
            split at h <;> cases h
            cases hreads
  obtain ⟨bytes, hbytes⟩ := hfile
  exact ⟨bytes, by rw [Files.read, hbytes]⟩

/-- **A command that gets a capture of texts is reported**, and one that
does not get its capture ends as the fault says. -/
theorem run_cases {environment : Environment} {args : List String} {request : Request}
    {path : String} {outline : Bool}
    (h : readRequest environment.defined environment.files args = .ok request)
    (hreads : request.Reads environment.files path outline) :
    (∃ recording, environment.files.capture path outline = .ok recording
        ∧ (recording.standIns = [] → (run environment args).Reported))
      ∨ ∃ fault output, environment.files.capture path outline = .error fault
        ∧ run environment args = fault.outcome environment.files output := by
  rw [run, h]
  cases hreads with
  | inspect path =>
    simp only [inspect]
    cases environment.files.capture path true with
    | error fault => exact Or.inr ⟨fault, _, rfl, rfl⟩
    | ok recording =>
      refine Or.inl ⟨recording, rfl, fun hnone => ?_⟩
      simp only [hnone, Text.StandIns.fault?_nil]
      exact Outcome.reported_done _ _
  | @generate request options hoptions =>
    simp only [GenerateRequest.run, hoptions]
    cases environment.files.capture request.capture (!options.skipValidation) with
    | error fault => exact Or.inr ⟨fault, _, rfl, rfl⟩
    | ok recording =>
      obtain ⟨sdk, s, hrun, -⟩ := exists_generate_eq options recording.capture
      refine Or.inl ⟨recording, rfl, fun hnone => ?_⟩
      -- every line of a capture of texts can be printed
      have hgenerate : recording.generate options = .ok (sdk, s) := by
        rw [Recording.generate, hnone]
        exact hrun
      simp only [hgenerate, hnone]
      exact reported_writeModule _ _ _ _

/-- **A file that holds no capture is reported, unless it is illegible.** The
capture that a command line names is a file. Loading it breaks off exactly if
its bytes are illegible, and then so does the command; if they are legible,
the command is reported. -/
theorem reported_run {environment : Environment} {args : List String} {request : Request}
    {path : String} {outline : Bool}
    (h : readRequest environment.defined environment.files args = .ok request)
    (hreads : request.Reads environment.files path outline) :
    ∃ bytes, environment.files.read path = .ok bytes
      ∧ ((∃ fault, environment.files.capture path outline = .error fault
          ∧ fault.breaksOff = true) ↔ Illegible bytes)
      ∧ (Illegible bytes → ¬ (run environment args).Reported)
      ∧ (Legible bytes → (run environment args).Reported) := by
  obtain ⟨bytes, hbytes⟩ := exists_read_of_readRequest h hreads
  have hbreaks : (∃ fault, environment.files.capture path outline = .error fault
      ∧ fault.breaksOff = true) ↔ Illegible bytes :=
    ⟨fun ⟨_, hfault, hoff⟩ => illegible_of_breaksOff hbytes hfault hoff,
      fun hillegible => exists_breaksOff_of_illegible hbytes outline hillegible⟩
  refine ⟨bytes, hbytes, hbreaks, fun hillegible hreported => ?_, fun hlegible => ?_⟩
  · obtain ⟨fault, hfault, hoff⟩ := hbreaks.mpr hillegible
    rcases run_cases h hreads with ⟨recording, hcapture, -⟩ | ⟨fault', output, hfault', hrun⟩
    · rw [hfault] at hcapture
      cases hcapture
    · rw [hfault] at hfault'
      cases hfault'
      rw [hrun, CaptureFault.reported_outcome_iff, hoff] at hreported
      cases hreported
  · rcases run_cases h hreads with
      ⟨recording, hcapture, hreported⟩ | ⟨fault, output, hfault, hrun⟩
    · exact hreported (hlegible.standIns_eq_nil hbytes hcapture)
    · rw [hrun, CaptureFault.reported_outcome_iff, ← Bool.not_eq_true]
      exact fun hoff => hlegible.not_illegible (hbreaks.mp ⟨fault, hfault, hoff⟩)

/-- A directory with a file of one byte that is not UTF-8. -/
def strayByte : Environment := ⟨[(["c.har"], .file [0xFF])], [], ""⟩

theorem readRequest_strayByte :
    readRequest strayByte.defined strayByte.files ["inspect", "c.har"] = .ok (.inspect "c.har") := by
  rfl

/-- **A file can break a command off.** -/
theorem not_reported_strayByte : ¬ ∀ (environment : Environment) (args : List String)
    (request : Request) (path : String) (outline : Bool),
    readRequest environment.defined environment.files args = .ok request →
      request.Reads environment.files path outline → (run environment args).Reported := by
  intro h
  have hreported := h strayByte _ _ _ _ readRequest_strayByte (.inspect "c.har")
  have hinterrupted : (run strayByte ["inspect", "c.har"]).interruption.isSome = true := by
    decide +kernel
  rw [hreported.uninterrupted] at hinterrupted
  cases hinterrupted

/-- What comes of a file of one byte that is not UTF-8. -/
theorem reported_run_strayByte :
    readRequest strayByte.defined strayByte.files ["inspect", "c.har"] = .ok (.inspect "c.har")
      ∧ (Request.inspect "c.har").Reads strayByte.files "c.har" true
      ∧ ∃ bytes, strayByte.files.read "c.har" = .ok bytes
        ∧ ((∃ fault, strayByte.files.capture "c.har" true = .error fault
            ∧ fault.breaksOff = true) ↔ Illegible bytes)
        ∧ (Illegible bytes → ¬ (run strayByte ["inspect", "c.har"]).Reported)
        ∧ (Legible bytes → (run strayByte ["inspect", "c.har"]).Reported) :=
  ⟨readRequest_strayByte, .inspect "c.har",
    reported_run readRequest_strayByte (.inspect "c.har")⟩

end Command

end TypedTraffic
