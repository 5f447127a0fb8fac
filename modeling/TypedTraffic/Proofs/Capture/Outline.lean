import TypedTraffic.Capture.Recording

/-!
# What checking the outline of a document changes

A capture is read from a document with or without a check of its outline.
The check and the schema decide on their own: the check wants a log and a
list of entries, and the schema has defaults for both.

So they differ on the documents without a list of entries only. Of these
the check refuses all, and the schema reads some: those without a log, and
those whose log has no entries and no malformed version. What it reads
them as is a capture without exchanges (`ofDocument_eq_ok_iff`). On the
other documents, and on texts that are no documents, the check changes
nothing (`onlyRejects_load`).
-/

namespace TypedTraffic

open Schema

namespace Schema.Checked

variable {α β : Type}

theorem map_eq_ok_iff {f : α → β} {x : Checked α} {b : β} :
    x.map f = .ok b ↔ ∃ a, x = .ok a ∧ f a = b := by
  cases x <;> simp [Checked.map]

theorem pair_eq_ok_iff {x : Checked α} {y : Checked β} {p : α × β} :
    x.pair y = .ok p ↔ x = .ok p.1 ∧ y = .ok p.2 := by
  cases x <;> cases y <;> simp [Checked.pair, Prod.ext_iff]

theorem under_eq_ok_iff {step : PathStep} {x : Checked α} {a : α} :
    x.under step = .ok a ↔ x = .ok a := by
  cases x <;> simp [Checked.under]

end Schema.Checked

namespace Capture

/-! ## Documents with and without entries -/

/-- **A document with a list of entries**: an object with an object under
`log`, which has a list under `entries`. -/
inductive HasEntries : Json → Prop where
  /-- Root, log and list. -/
  | intro {members log : Members} {items : List Json} :
      Json.get? members "log" = some (.object log) →
      Json.get? log "entries" = some (.array items) → HasEntries (.object members)

/-- What may stand under `version`: nothing, null or a string. -/
inductive IsVersion : Option Json → Option String → Prop where
  /-- Nothing. -/
  | absent : IsVersion none none
  /-- No version. -/
  | null : IsVersion (some .null) none
  /-- A version. -/
  | text (points : List CodePoint) : IsVersion (some (.string points)) (some (textOf points))

/-- **A document that is read without entries**, as the given capture. -/
inductive ReadsEmpty : Json → Capture → Prop where
  /-- There is no log. -/
  | noLog {members : Members} : Json.get? members "log" = none →
      ReadsEmpty (.object members) Capture.empty
  /-- The log has no entries, and what may stand under `version`. -/
  | noEntries {members log : Members} {version : Option String} :
      Json.get? members "log" = some (.object log) → Json.get? log "entries" = none →
      IsVersion (Json.get? log "version") version → ReadsEmpty (.object members) ⟨version, []⟩

/-- A document that is read without entries has no exchanges. -/
theorem ReadsEmpty.exchanges_eq_nil {document : Json} {capture : Capture}
    (h : ReadsEmpty document capture) : capture.exchanges = [] := by
  cases h <;> rfl

/-- **The check of the outline passes** exactly documents with a list of
entries. -/
theorem outlineFault?_eq_none_iff {document : Json} :
    outlineFault? document = none ↔ HasEntries document := by
  constructor
  · intro h
    unfold outlineFault? at h
    split at h
    · rename_i members
      split at h
      · rename_i log hlog
        split at h
        · rename_i items hitems
          exact .intro hlog hitems
        · cases h
      · cases h
    · cases h
  · rintro ⟨hlog, hitems⟩
    simp only [outlineFault?, hlog, hitems]

/-! ## The schema on documents without entries -/

/-- A field with one spelling: its value if it is there, else its
default. -/
theorem field_singleton {α : Type} (members : Members) (default : Checked α)
    (read : Json → Checked α) (key : String) :
    field members default read [key] =
      match Json.get? members key with
      | some value => (read value).under (.key key)
      | none => default := by
  rw [field]
  cases Json.get? members key <;> rfl

theorem field_eq_ok_iff {α : Type} {members : Members} {default : α} {read : Json → Checked α}
    {key : String} {a : α} : field members (.ok default) read [key] = .ok a
      ↔ (Json.get? members key = none ∧ default = a)
        ∨ ∃ value, Json.get? members key = some value ∧ read value = .ok a := by
  rw [field_singleton]
  cases Json.get? members key <;> simp [Checked.under_eq_ok_iff]

theorem version_eq_ok_iff {log : Members} {version : Option String} :
    field log (.ok none) (nullable text) ["version"] = .ok version
      ↔ IsVersion (Json.get? log "version") version := by
  rw [field_eq_ok_iff]
  constructor
  · rintro (⟨hnone, rfl⟩ | ⟨value, hvalue, hread⟩)
    · rw [hnone]
      exact .absent
    · rw [hvalue]
      cases value with
      | null => cases hread; exact .null
      | string points => cases hread; exact .text points
      | _ => cases hread
  · intro h
    generalize Json.get? log "version" = found at h
    cases h with
    | absent => exact Or.inl ⟨rfl, rfl⟩
    | null => exact Or.inr ⟨_, rfl, rfl⟩
    | text points => exact Or.inr ⟨_, rfl, rfl⟩

/-- A value that is read as a record is an object. -/
theorem exists_of_record_eq_ok {α : Type} {name : String} {read : Members → Checked α}
    {value : Json} {a : α} (h : record name read value = .ok a) :
    ∃ members, value = .object members ∧ read members = .ok a := by
  cases value with
  | object members => exact ⟨members, rfl, h⟩
  | _ => cases h

/-- A log without a list of entries is read if it has no entries at all. -/
theorem readLog_eq_ok_iff {log : Members}
    (h : ∀ items, Json.get? log "entries" ≠ some (.array items)) {capture : Capture} :
    readLog (.object log) = .ok capture ↔ Json.get? log "entries" = none
      ∧ ∃ version, IsVersion (Json.get? log "version") version ∧ ⟨version, []⟩ = capture := by
  have hentries : ∀ {exchanges : List Exchange},
      field log (.ok []) (listOf readExchange) ["entries"] = .ok exchanges
        ↔ Json.get? log "entries" = none ∧ [] = exchanges := by
    intro exchanges
    rw [field_eq_ok_iff, or_iff_left]
    rintro ⟨value, hvalue, hread⟩
    cases value with
    | array items => exact h items hvalue
    | _ => cases hread
  rw [readLog, record, Checked.map_eq_ok_iff]
  simp only [Checked.pair_eq_ok_iff, version_eq_ok_iff, hentries, Prod.exists]
  constructor
  · rintro ⟨version, exchanges, ⟨hversion, hnone, rfl⟩, heq⟩
    exact ⟨hnone, version, hversion, heq⟩
  · rintro ⟨hnone, version, hversion, heq⟩
    exact ⟨version, [], ⟨hversion, hnone, rfl⟩, heq⟩

/-- **A document without a list of entries** is read exactly if it lacks
them in a way that has a default. -/
theorem ofDocument_eq_ok_iff {document : Json} (h : ¬ HasEntries document) {capture : Capture} :
    ofDocument document = .ok capture ↔ ReadsEmpty document capture := by
  constructor
  · intro hread
    obtain ⟨members, rfl, hread⟩ := exists_of_record_eq_ok hread
    rcases field_eq_ok_iff.mp hread with ⟨hnone, rfl⟩ | ⟨value, hvalue, hlog⟩
    · exact .noLog hnone
    · obtain ⟨log, rfl, -⟩ := exists_of_record_eq_ok hlog
      obtain ⟨hnone, version, hversion, rfl⟩ :=
        (readLog_eq_ok_iff fun items hitems => h (.intro hvalue hitems)).mp hlog
      exact .noEntries hvalue hnone hversion
  · intro hempty
    cases hempty with
    | noLog hnone => exact field_eq_ok_iff.mpr (Or.inl ⟨hnone, rfl⟩)
    | noEntries hlog hnone hversion =>
      refine field_eq_ok_iff.mpr (Or.inr ⟨_, hlog, ?_⟩)
      exact (readLog_eq_ok_iff fun items hitems => h (.intro hlog hitems)).mpr
        ⟨hnone, _, hversion, rfl⟩

end Capture

/-! ## Stand-ins and the outline -/

section Disguised

variable {standIns : Text.StandIns}

theorem Json.get?_disguisedMembers (members : Capture.Members) (key : String) :
    get? (disguisedMembers standIns members) key
      = (get? members key).map (disguised standIns) := by
  induction members with
  | nil => rfl
  | cons member members ih =>
    obtain ⟨name, value⟩ := member
    rw [get?] at ih ⊢
    rw [get?, disguisedMembers, List.lookup_cons, List.lookup_cons]
    split
    · rfl
    · exact ih

/-- What is an object with stand-ins is one without. -/
theorem Json.exists_of_disguised_eq_object {value : Json} {members : Capture.Members}
    (h : value.disguised standIns = .object members) :
    ∃ members', value = .object members' ∧ disguisedMembers standIns members' = members := by
  cases value with
  | object members' => cases h; exact ⟨members', rfl, rfl⟩
  | _ => cases h

namespace Capture

/-- Under a key with an object there is one without stand-ins. -/
theorem exists_of_get?_eq_object {members log : Members} {key : String}
    (h : Json.get? (Json.disguisedMembers standIns members) key = some (.object log)) :
    ∃ log', Json.get? members key = some (.object log')
      ∧ Json.disguisedMembers standIns log' = log := by
  rw [Json.get?_disguisedMembers] at h
  obtain ⟨value, hvalue, heq⟩ := Option.map_eq_some_iff.mp h
  obtain ⟨log', rfl, hlog⟩ := Json.exists_of_disguised_eq_object heq
  exact ⟨log', hvalue, hlog⟩

theorem hasEntries_disguised_iff {document : Json} :
    HasEntries (document.disguised standIns) ↔ HasEntries document := by
  constructor
  · generalize hdisguised : document.disguised standIns = disguised
    rintro ⟨hlog, hitems⟩
    obtain ⟨members, rfl, rfl⟩ := Json.exists_of_disguised_eq_object hdisguised
    obtain ⟨log, hfound, rfl⟩ := exists_of_get?_eq_object hlog
    rw [Json.get?_disguisedMembers] at hitems
    obtain ⟨value, hvalue, heq⟩ := Option.map_eq_some_iff.mp hitems
    cases value with
    | array items => exact .intro hfound hvalue
    | _ => cases heq
  · rintro ⟨hlog, hitems⟩
    have hlog' := congrArg (Option.map (Json.disguised standIns)) hlog
    have hitems' := congrArg (Option.map (Json.disguised standIns)) hitems
    rw [← Json.get?_disguisedMembers] at hlog' hitems'
    exact .intro hlog' hitems'

variable (standIns) in
theorem exists_isVersion_disguised_iff {value : Option Json} :
    (∃ version, IsVersion (value.map (Json.disguised standIns)) version)
      ↔ ∃ version, IsVersion value version := by
  cases value with
  | none => exact Iff.rfl
  | some value =>
    cases value with
    | null => exact Iff.rfl
    | string points => exact ⟨fun _ => ⟨_, .text points⟩, fun _ => ⟨_, .text _⟩⟩
    | _ => exact ⟨fun ⟨_, h⟩ => (nomatch h), fun ⟨_, h⟩ => (nomatch h)⟩

variable (standIns) in
/-- **Stand-ins make no difference** to what is read without entries. -/
theorem exists_readsEmpty_disguised_iff {document : Json} :
    (∃ capture, ReadsEmpty (document.disguised standIns) capture)
      ↔ ∃ capture, ReadsEmpty document capture := by
  constructor
  · rintro ⟨capture, h⟩
    generalize hdisguised : document.disguised standIns = disguised at h
    cases h with
    | noLog hnone =>
      obtain ⟨members, rfl, rfl⟩ := Json.exists_of_disguised_eq_object hdisguised
      rw [Json.get?_disguisedMembers, Option.map_eq_none_iff] at hnone
      exact ⟨_, .noLog hnone⟩
    | noEntries hlog hnone hversion =>
      obtain ⟨members, rfl, rfl⟩ := Json.exists_of_disguised_eq_object hdisguised
      obtain ⟨log, hfound, rfl⟩ := exists_of_get?_eq_object hlog
      rw [Json.get?_disguisedMembers, Option.map_eq_none_iff] at hnone
      rw [Json.get?_disguisedMembers] at hversion
      obtain ⟨version, hversion⟩ := (exists_isVersion_disguised_iff standIns).mp ⟨_, hversion⟩
      exact ⟨_, .noEntries hfound hnone hversion⟩
  · rintro ⟨capture, h⟩
    cases h with
    | noLog hnone =>
      exact ⟨_, .noLog (by rw [Json.get?_disguisedMembers, hnone]; rfl)⟩
    | noEntries hlog hnone hversion =>
      obtain ⟨version, hversion⟩ := (exists_isVersion_disguised_iff standIns).mpr ⟨_, hversion⟩
      have hlog' := congrArg (Option.map (Json.disguised standIns)) hlog
      have hnone' := congrArg (Option.map (Json.disguised standIns)) hnone
      rw [← Json.get?_disguisedMembers] at hlog' hnone' hversion
      exact ⟨_, .noEntries hlog' hnone' hversion⟩

end Capture

end Disguised

/-! ## Loading -/

/-- **The recording of a document without a list of entries** is there
exactly if it is read without entries, and has no exchanges. -/
theorem Recording.exists_ofDocument_eq_ok_iff {document : Json}
    (h : ¬ Capture.HasEntries document) :
    (∃ recording, ofDocument document = .ok recording)
      ↔ ∃ capture, Capture.ReadsEmpty document capture := by
  have hdisguised : ¬ Capture.HasEntries (document.disguised document.standIns) :=
    fun hentries => h (Capture.hasEntries_disguised_iff.mp hentries)
  rw [← Capture.exists_readsEmpty_disguised_iff document.standIns]
  simp only [ofDocument, Checked.map_eq_ok_iff, Capture.ofDocument_eq_ok_iff hdisguised]
  constructor
  · rintro ⟨_, capture, hcapture, -⟩
    exact ⟨capture, hcapture⟩
  · rintro ⟨capture, hcapture⟩
    exact ⟨_, capture, hcapture, rfl⟩

theorem Recording.exchanges_eq_nil {document : Json} (h : ¬ Capture.HasEntries document)
    {recording : Recording} (hread : ofDocument document = .ok recording) :
    recording.capture.exchanges = [] := by
  have hdisguised : ¬ Capture.HasEntries (document.disguised document.standIns) :=
    fun hentries => h (Capture.hasEntries_disguised_iff.mp hentries)
  obtain ⟨capture, hcapture, rfl⟩ := Checked.map_eq_ok_iff.mp hread
  exact ((Capture.ofDocument_eq_ok_iff hdisguised).mp hcapture).exchanges_eq_nil

section Load

variable {source : String} {document : Json} (hparse : Json.parse source = .ok document)

include hparse

/-- Without the check the schema decides. -/
theorem Recording.load_false : (∃ recording, ofDocument document = .ok recording
      ∧ load false source = .ok recording)
    ∨ ∃ errors, ofDocument document = .error errors ∧ load false source = .error (.fields errors) := by
  rw [load, hparse]
  simp only [Bool.false_eq_true, if_false]
  cases ofDocument document with
  | ok recording => exact Or.inl ⟨recording, rfl, rfl⟩
  | error errors => exact Or.inr ⟨errors, rfl, rfl⟩

theorem Recording.load_false_eq_ok_iff {recording : Recording} :
    load false source = .ok recording ↔ ofDocument document = .ok recording := by
  rcases load_false hparse with ⟨_, hread, hload⟩ | ⟨_, hread, hload⟩ <;> rw [hread, hload] <;> simp

/-- With the check, a document with an outline is loaded as without. -/
theorem Recording.load_true_of_hasEntries (h : Capture.HasEntries document) :
    load true source = load false source := by
  rw [load, load, hparse]
  simp only [if_true, Capture.outlineFault?_eq_none_iff.mpr h]
  rfl

/-- A document without an outline is refused by the check. -/
theorem Recording.load_true_of_not_hasEntries (h : ¬ Capture.HasEntries document) :
    ∃ fault, Capture.outlineFault? document = some fault
      ∧ load true source = .error (.outline fault) := by
  rw [← Capture.outlineFault?_eq_none_iff] at h
  obtain ⟨fault, hfault⟩ := Option.ne_none_iff_exists'.mp h
  refine ⟨fault, hfault, ?_⟩
  rw [load, hparse]
  simp only [if_true, hfault]

end Load

/-- **A check of the outline that only rejects**: what loading a text with
the check answers, compared with what it answers without. -/
structure OnlyRejects (source : String) : Prop where
  /-- What is not JSON is refused for that reason in both cases. -/
  notJson : ∀ kind line column offset,
    Json.parse source = .error (.malformed kind line column offset) →
    ∀ outline, Recording.load outline source = .error (.notJson kind line column offset)
  /-- So is what exceeds a limit of the reader. -/
  limit : ∀ e, Json.parse source = .error e →
    (∀ kind line column offset, e ≠ .malformed kind line column offset) →
    ∀ outline, Recording.load outline source = .error (.limit e)
  /-- A document with a list of entries has the same answer in both cases:
  its recording, or all errors of its fields. -/
  same : ∀ document, Json.parse source = .ok document → Capture.HasEntries document →
    Recording.load true source = Recording.load false source
      ∧ ((∃ recording, Recording.load false source = .ok recording)
        ∨ ∃ errors, Recording.load false source = .error (.fields errors))
  /-- Every other document is refused by the check. -/
  refused : ∀ document, Json.parse source = .ok document → ¬ Capture.HasEntries document →
    ∃ fault, Recording.load true source = .error (.outline fault)
  /-- Without the check it is loaded exactly if it lacks entries in a way
  that has a default; -/
  accepted : ∀ document, Json.parse source = .ok document → ¬ Capture.HasEntries document →
    ((∃ recording, Recording.load false source = .ok recording)
      ↔ ∃ capture, Capture.ReadsEmpty document capture)
  /-- and then there are no exchanges. -/
  empty : ∀ document, Json.parse source = .ok document → ¬ Capture.HasEntries document →
    ∀ recording, Recording.load false source = .ok recording → recording.capture.exchanges = []

/-- **The check of the outline only rejects**, whatever the text. -/
theorem onlyRejects_load (source : String) : OnlyRejects source where
  notJson kind line column offset hparse outline := by rw [Recording.load, hparse]
  limit e hparse he outline := by
    rw [Recording.load, hparse]
    cases e with
    | malformed kind line column offset => exact absurd rfl (he kind line column offset)
    | _ => rfl
  same document hparse hentries := by
    refine ⟨Recording.load_true_of_hasEntries hparse hentries, ?_⟩
    rcases Recording.load_false hparse with ⟨recording, -, hload⟩ | ⟨errors, -, hload⟩
    · exact Or.inl ⟨recording, hload⟩
    · exact Or.inr ⟨errors, hload⟩
  refused document hparse hentries := by
    obtain ⟨fault, -, hload⟩ := Recording.load_true_of_not_hasEntries hparse hentries
    exact ⟨fault, hload⟩
  accepted document hparse hentries := by
    simp only [Recording.load_false_eq_ok_iff hparse]
    exact Recording.exists_ofDocument_eq_ok_iff hentries
  empty document hparse hentries recording hload := by
    rw [Recording.load_false_eq_ok_iff hparse] at hload
    exact Recording.exchanges_eq_nil hentries hload

end TypedTraffic
