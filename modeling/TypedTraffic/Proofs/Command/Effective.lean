import Mathlib.Data.List.Nodup
import TypedTraffic.Command.Run

/-!
# Where options come from

An option of a run has the value it is given last on the command line, or
else that of its environment variable, if it is not empty, or else its
value in the configuration file, or else its default, and each option on
its own: this is its **effective** value. The options of a request are what
the effective values amount to (`takesFirst_run`).

So nothing is asked of a value in the configuration file that is not
effective, and a value that is effective and refused ends the command
before the capture is read.
-/

namespace TypedTraffic

/-! ## Settings put over others -/

theorem Settings.get?_cons (entry : String × Setting) (settings : Settings) (name : String) :
    Settings.get? (entry :: settings) name
      = if name = entry.1 then some entry.2 else settings.get? name :=
  Ordered.lookup_cons name entry settings

/-- What is put under a name is found there, and nowhere else. -/
theorem Settings.get?_put (settings : Settings) (name : String) (value : Setting)
    (other : String) :
    Settings.get? (Ordered.put name value settings) other
      = if other = name then some value else settings.get? other := by
  induction settings with
  | nil => exact get?_cons _ _ _
  | cons entry settings ih =>
    rw [Ordered.put]
    by_cases hentry : entry.1 = name
    · rw [if_pos hentry, get?_cons, get?_cons, hentry]
      split <;> rfl
    · rw [if_neg hentry, get?_cons, get?_cons, ih]
      by_cases hother : other = entry.1
      · rw [if_pos hother, if_pos hother, if_neg (hother ▸ hentry)]
      · rw [if_neg hother, if_neg hother]

/-- **What is set over settings comes first**, if no name is set twice and
everything that is set has a value. -/
theorem Settings.get?_override {settings others : Settings} (hnodup : (others.map Prod.fst).Nodup)
    (hgiven : ∀ other ∈ others, other.2.isGiven = true) (name : String) :
    (settings.override others).get? name
      = (Settings.get? others name).or (settings.get? name) := by
  rw [override, List.filter_eq_self.mpr hgiven]
  induction others generalizing settings with
  | nil => rfl
  | cons other others ih =>
    obtain ⟨hnot, hnodup⟩ := List.nodup_cons.mp hnodup
    rw [List.foldl_cons, ih hnodup fun o ho => hgiven o (List.mem_cons_of_mem _ ho), get?_put,
      get?_cons]
    by_cases hname : name = other.1
    · have hnone : Settings.get? others name = none := by
        rw [get?, List.lookup_eq_none_iff]
        intro o ho
        rw [bne_iff_ne]
        rintro heq
        exact hnot (List.mem_map.mpr ⟨o, ho, by rw [← heq, hname]⟩)
      rw [if_pos hname, if_pos hname, hnone]
      rfl
    · rw [if_neg hname, if_neg hname]

/-! ## Complaints about options -/

namespace Schema.Checked

variable {α β : Type} {x : Checked α} {y : Checked β}

/-- Complaints about two things are complaints about one of them. -/
theorem mem_of_pair_eq_error {errors : List FieldError} (h : x.pair y = .error errors)
    {e : FieldError} (he : e ∈ errors) :
    (∃ first, x = .error first ∧ e ∈ first) ∨ ∃ second, y = .error second ∧ e ∈ second := by
  cases x with
  | ok a =>
    cases y with
    | ok b => cases h
    | error second => cases h; exact Or.inr ⟨_, rfl, he⟩
  | error first =>
    cases y with
    | ok b => cases h; exact Or.inl ⟨_, rfl, he⟩
    | error second =>
      cases h
      exact (List.mem_append.mp he).imp (fun he => ⟨_, rfl, he⟩) fun he => ⟨_, rfl, he⟩

/-- Complaints about the first of two things are kept. -/
theorem exists_pair_eq_error_left {first : List FieldError} (h : x = .error first) :
    ∃ errors, x.pair y = .error errors ∧ ∀ e ∈ first, e ∈ errors := by
  subst h
  cases y with
  | ok b => exact ⟨first, rfl, fun _ he => he⟩
  | error second => exact ⟨_, rfl, fun _ he => List.mem_append_left _ he⟩

/-- Complaints about the second of two things are kept. -/
theorem exists_pair_eq_error_right {second : List FieldError} (h : y = .error second) :
    ∃ errors, x.pair y = .error errors ∧ ∀ e ∈ second, e ∈ errors := by
  subst h
  cases x with
  | ok a => exact ⟨second, rfl, fun _ he => he⟩
  | error first => exact ⟨_, rfl, fun _ he => List.mem_append_right _ he⟩

end Schema.Checked

namespace Command

open Schema

/-! ## Effective values -/

/-- **The options that can be set in several places.** -/
inductive Choice where
  /-- Whether definitions of one shape are shared. -/
  | mergeTypes
  /-- What is put in front of type names. -/
  | typePrefix
  /-- Whether the outline of the capture is left unchecked. -/
  | skipValidation
  deriving DecidableEq

namespace Choice

/-- All of them. -/
def all : List Choice := [.mergeTypes, .typePrefix, .skipValidation]

theorem mem_all (c : Choice) : c ∈ all := by
  cases c <;> decide

theorem nodup_all : all.Nodup := by decide

/-- The name in a configuration file. -/
def name : Choice → String
  | .mergeTypes => "merge_types"
  | .typePrefix => "type_prefix"
  | .skipValidation => "skip_validation"

/-- The option of the command line. -/
def flag : Choice → Flag
  | .mergeTypes => .mergeTypes
  | .typePrefix => .typePrefix
  | .skipValidation => .skipValidation

/-- What a flag of the command line sets: one of the two forms of sharing,
the text behind the flag, or that the check is left out. -/
def ofGiven (given : Given) : Choice → Setting
  | .mergeTypes => .truth (given.flag = .mergeTypes)
  | .typePrefix => .text given.value
  | .skipValidation => .truth true

/-- What the text of an environment variable sets. -/
def ofText? (text : String) : Choice → Option Setting
  | .typePrefix => some (.text text)
  | _ => (truthOf? text).map .truth

/-- The value outside of configuration files: the last one on the command
line, or else the one in the environment. -/
def outside? (defined : Variables) (arguments : Arguments) (c : Choice) : Option Setting :=
  match lastGiven arguments c.flag with
  | some given => some (c.ofGiven given)
  | none => (defined.text? (variableOf c.flag)).bind c.ofText?

/-- **The effective value of an option**, if there is any. -/
def effective? (defined : Variables) (arguments : Arguments) (configured : Settings)
    (c : Choice) : Option Setting :=
  (c.outside? defined arguments).or (configured.get? c.name)

/-- The complaints about a value of an option. -/
def Refuses (c : Choice) (value : Setting) (errors : List FieldError) : Prop :=
  match c with
  | .typePrefix => Options.namePrefix value = .error errors
  | _ => Options.truth value = .error errors

end Choice

/-- **The settings that are effective.** -/
def effective (defined : Variables) (arguments : Arguments) (configured : Settings) : Settings :=
  Choice.all.filterMap fun c => (c.effective? defined arguments configured).map (c.name, ·)

theorem Choice.name_injective : Function.Injective Choice.name := by
  intro c c' h
  cases c <;> cases c' <;> first | rfl | exact absurd h (by decide)

/-- Settings that are made for options hold their values. -/
theorem get?_filterMap (value? : Choice → Option Setting) (cs : List Choice) (c : Choice) :
    Settings.get? (cs.filterMap fun c => (value? c).map (c.name, ·)) c.name
      = if c ∈ cs then value? c else none := by
  induction cs with
  | nil => rfl
  | cons d cs ih =>
    cases hd : value? d with
    | none =>
      rw [List.filterMap_cons_none (by rw [hd, Option.map_none]), ih]
      by_cases hcd : c = d
      · simp [hcd, hd]
      · simp [hcd]
    | some value =>
      rw [List.filterMap_cons_some (by rw [hd, Option.map_some]), Settings.get?_cons, ih]
      by_cases hcd : c = d
      · rw [hcd, if_pos rfl, if_pos List.mem_cons_self, hd]
      · rw [if_neg fun h => hcd (Choice.name_injective h)]
        simp [hcd]

/-- Each option is set at most once. -/
theorem map_fst_filterMap (value? : Choice → Option Setting) (cs : List Choice) :
    (cs.filterMap fun c => (value? c).map (c.name, ·)).map Prod.fst
      = (cs.filter fun c => (value? c).isSome).map Choice.name := by
  induction cs with
  | nil => rfl
  | cons d cs ih => cases hd : value? d <;> simp [hd, ih]

theorem get?_effective (defined : Variables) (arguments : Arguments) (configured : Settings)
    (c : Choice) :
    (effective defined arguments configured).get? c.name
      = c.effective? defined arguments configured := by
  rw [effective, get?_filterMap, if_pos c.mem_all]

/-- The last form of an option that is given is one of its forms. -/
theorem principal_of_lastGiven {arguments : Arguments} {flag : Flag} {given : Given}
    (h : lastGiven arguments flag = some given) : given.flag.principal = flag := by
  simpa using List.find?_some h

theorem truthSetting?_mergeTypes (defined : Variables) (arguments : Arguments) :
    truthSetting? defined arguments .mergeTypes = Choice.mergeTypes.outside? defined arguments := by
  rw [truthSetting?, Choice.outside?, Choice.flag]
  cases lastGiven arguments .mergeTypes with
  | some given => rfl
  | none => exact Option.map_bind

theorem truthSetting?_skipValidation (defined : Variables) (arguments : Arguments) :
    truthSetting? defined arguments .skipValidation
      = Choice.skipValidation.outside? defined arguments := by
  rw [truthSetting?, Choice.outside?, Choice.flag]
  cases hlast : lastGiven arguments .skipValidation with
  | some given =>
    -- leaving the check out has no form that takes it back
    have hflag : given.flag = .skipValidation := by
      have hprincipal := principal_of_lastGiven hlast
      cases hgiven : given.flag <;> rw [hgiven] at hprincipal <;> cases hprincipal
    simp only [hflag, decide_true]
    rfl
  | none => exact Option.map_bind

theorem textSetting?_typePrefix (defined : Variables) (arguments : Arguments) :
    textSetting? defined arguments .typePrefix = Choice.typePrefix.outside? defined arguments := by
  rw [textSetting?, Choice.outside?, Choice.flag]
  cases lastGiven arguments .typePrefix with
  | some given => rfl
  | none => exact Option.map_eq_bind

/-- **What a command line sets** is what has a value outside of
configuration files. -/
theorem overridesOf_eq (defined : Variables) (arguments : Arguments) :
    overridesOf defined arguments
      = Choice.all.filterMap fun c => (c.outside? defined arguments).map (c.name, ·) := by
  rw [overridesOf, truthSetting?_mergeTypes, truthSetting?_skipValidation, textSetting?_typePrefix]
  rfl

/-- Whatever is set outside of configuration files has a value. -/
theorem Choice.isGiven_of_outside? {defined : Variables} {arguments : Arguments} {c : Choice}
    {value : Setting} (h : c.outside? defined arguments = some value) : value.isGiven = true := by
  unfold outside? at h
  split at h
  · cases h
    cases c <;> rfl
  · obtain ⟨text, -, hvalue⟩ := Option.bind_eq_some_iff.mp h
    cases c with
    | typePrefix => cases hvalue; rfl
    | mergeTypes =>
      obtain ⟨b, -, rfl⟩ := Option.map_eq_some_iff.mp hvalue
      rfl
    | skipValidation =>
      obtain ⟨b, -, rfl⟩ := Option.map_eq_some_iff.mp hvalue
      rfl

/-- **What is left when the command line is put over the configuration**
are the effective values. -/
theorem get?_override_overridesOf (defined : Variables) (arguments : Arguments)
    (configured : Settings) (c : Choice) :
    (configured.override (overridesOf defined arguments)).get? c.name
      = c.effective? defined arguments configured := by
  have hnodup : ((overridesOf defined arguments).map Prod.fst).Nodup := by
    rw [overridesOf_eq, map_fst_filterMap]
    exact List.Nodup.map Choice.name_injective (Choice.nodup_all.filter _)
  have hgiven : ∀ other ∈ overridesOf defined arguments, other.2.isGiven = true := by
    intro other hother
    rw [overridesOf_eq] at hother
    obtain ⟨c, -, hc⟩ := List.mem_filterMap.mp hother
    obtain ⟨value, hvalue, rfl⟩ := Option.map_eq_some_iff.mp hc
    exact Choice.isGiven_of_outside? hvalue
  rw [Settings.get?_override hnodup hgiven, overridesOf_eq, get?_filterMap, if_pos c.mem_all]
  rfl

/-! ## The options of a request -/

/-- **Options are read from their own names**, and from nothing else. -/
theorem ofSettings_congr {settings settings' : Settings}
    (h : ∀ c : Choice, settings.get? c.name = settings'.get? c.name) :
    Options.ofSettings settings = Options.ofSettings settings' := by
  have hmerge : settings.get? "merge_types" = settings'.get? "merge_types" := h .mergeTypes
  have hprefix : settings.get? "type_prefix" = settings'.get? "type_prefix" := h .typePrefix
  have hskip : settings.get? "skip_validation" = settings'.get? "skip_validation" :=
    h .skipValidation
  simp only [Options.ofSettings, Options.setting, hmerge, hprefix, hskip]

/-- A complaint about a setting is placed under its name. -/
theorem place_of_setting_eq_error {α : Type} {settings : Settings} {name : String} {default : α}
    {read : Setting → Checked α} {errors : List FieldError}
    (h : Options.setting settings name default read = .error errors) {e : FieldError}
    (he : e ∈ errors) : ∃ rest, e.place = .key name :: rest := by
  unfold Options.setting at h
  split at h
  · rename_i value _
    cases hread : read value with
    | ok x => rw [hread] at h; cases h
    | error errors' =>
      rw [hread] at h
      cases h
      obtain ⟨e', -, rfl⟩ := List.mem_map.mp he
      exact ⟨e'.place, rfl⟩
  · cases h

/-- A value that is refused is complained about under its name. -/
theorem setting_eq_error {α : Type} {settings : Settings} {name : String} (default : α)
    {read : Setting → Checked α} {value : Setting} {complaints : List FieldError}
    (hvalue : settings.get? name = some value) (hread : read value = .error complaints) :
    Options.setting settings name default read
      = .error (complaints.map fun e => { e with place := .key name :: e.place }) := by
  rw [Options.setting, hvalue]
  simp only [hread]
  rfl

/-- The three readings that make up options, in their order. -/
theorem ofSettings_eq_error_iff {settings : Settings} {errors : List FieldError} :
    Options.ofSettings settings = .error errors
      ↔ (Options.setting settings "merge_types" true Options.truth).pair
          ((Options.setting settings "type_prefix" "" Options.namePrefix).pair
            (Options.setting settings "skip_validation" false Options.truth)) = .error errors := by
  rw [Options.ofSettings]
  cases (Options.setting settings "merge_types" true Options.truth).pair
      ((Options.setting settings "type_prefix" "" Options.namePrefix).pair
        (Options.setting settings "skip_validation" false Options.truth)) with
  | ok x => exact iff_of_false (fun h => nomatch h) fun h => nomatch h
  | error errors' => simp [Checked.map]

/-- **A complaint about options is placed under the name of one.** -/
theorem place_of_ofSettings_eq_error {settings : Settings} {errors : List FieldError}
    (h : Options.ofSettings settings = .error errors) {e : FieldError} (he : e ∈ errors) :
    ∃ (c : Choice) (rest : List PathStep), e.place = .key c.name :: rest := by
  rw [ofSettings_eq_error_iff] at h
  rcases Checked.mem_of_pair_eq_error h he with ⟨first, hfirst, he⟩ | ⟨second, hsecond, he⟩
  · exact ⟨.mergeTypes, place_of_setting_eq_error hfirst he⟩
  · rcases Checked.mem_of_pair_eq_error hsecond he with ⟨first, hfirst, he⟩ | ⟨third, hthird, he⟩
    · exact ⟨.typePrefix, place_of_setting_eq_error hfirst he⟩
    · exact ⟨.skipValidation, place_of_setting_eq_error hthird he⟩

/-- **A value that is refused is complained about**, under the name of its
option. -/
theorem exists_ofSettings_eq_error {settings : Settings} {c : Choice} {value : Setting}
    (hvalue : settings.get? c.name = some value) {complaints : List FieldError}
    (hrefuses : c.Refuses value complaints) :
    ∃ errors, Options.ofSettings settings = .error errors
      ∧ ∀ e ∈ complaints, ⟨.key c.name :: e.place, e.complaint⟩ ∈ errors := by
  have hmem : ∀ {errors : List FieldError},
      (∀ e ∈ complaints.map fun e => { e with place := .key c.name :: e.place }, e ∈ errors) →
      ∀ e ∈ complaints, ⟨.key c.name :: e.place, e.complaint⟩ ∈ errors :=
    fun h e he => h _ (List.mem_map_of_mem he)
  simp only [ofSettings_eq_error_iff]
  cases c with
  | mergeTypes =>
    have hplaced := setting_eq_error true hvalue hrefuses
    obtain ⟨errors, herrors, hsub⟩ := Checked.exists_pair_eq_error_left hplaced
    exact ⟨errors, herrors, hmem hsub⟩
  | typePrefix =>
    have hplaced := setting_eq_error "" hvalue hrefuses
    obtain ⟨errors, herrors, hsub⟩ := Checked.exists_pair_eq_error_left hplaced
    obtain ⟨errors', herrors', hsub'⟩ := Checked.exists_pair_eq_error_right herrors
    exact ⟨errors', herrors', hmem fun e he => hsub' e (hsub e he)⟩
  | skipValidation =>
    have hplaced := setting_eq_error false hvalue hrefuses
    obtain ⟨errors, herrors, hsub⟩ := Checked.exists_pair_eq_error_right hplaced
    obtain ⟨errors', herrors', hsub'⟩ := Checked.exists_pair_eq_error_right herrors
    exact ⟨errors', herrors', hmem fun e he => hsub' e (hsub e he)⟩

/-- What is said about options depends on the options only. -/
theorem refusalsText_congr {settings settings' : Settings} {errors : List FieldError}
    (h : ∀ c : Choice, settings.get? c.name = settings'.get? c.name)
    (herrors : Options.ofSettings settings = .error errors) :
    refusalsText settings errors = refusalsText settings' errors := by
  have htext : errors.map (refusalText settings) = errors.map (refusalText settings') := by
    refine List.map_congr_left fun e he => ?_
    obtain ⟨c, rest, hplace⟩ := place_of_ofSettings_eq_error herrors he
    have hvalue : valueAt settings e = valueAt settings' e := by
      simp only [valueAt, hplace, h c]
    rw [refusalText, refusalText, hvalue]
  rw [refusalsText, refusalsText, htext]

/-! ## Command lines -/

/-- **The arguments of a command line that generates a module**: those
behind the name of the command. -/
def Generates (args : List String) (arguments : Arguments) : Prop :=
  ∃ rest, readArguments Scope.program.flags false args = .ok ⟨[], "generate" :: rest⟩
    ∧ readArguments Scope.generate.flags true rest = .ok arguments

/-- **A request that generates a module** is made by the arguments of the
command, and these have no fault. -/
theorem exists_generates_of_readRequest {defined : Variables} {files : Files} {args : List String}
    {request : GenerateRequest} (h : readRequest defined files args = .ok (.generate request)) :
    ∃ arguments, Generates args arguments
      ∧ argumentsFault? defined files arguments Scope.generate.parameters = none
      ∧ requestOf defined arguments .generate = .generate request := by
  have hcommand : ∀ {scope rest}, readCommand defined files scope rest = .ok (.generate request) →
      scope = .generate ∧ ∃ arguments, readArguments scope.flags true rest = .ok arguments
        ∧ argumentsFault? defined files arguments scope.parameters = none
        ∧ requestOf defined arguments scope = .generate request := by
    intro scope rest h
    unfold readCommand at h
    split at h
    · cases h
    · rename_i arguments harguments
      split at h
      · cases h
      · split at h
        · cases h
        · rename_i hfault
          have hrequest := Except.ok.inj h
          refine ⟨?_, arguments, harguments, hfault, hrequest⟩
          cases scope <;> first | rfl | cases hrequest
  unfold readRequest at h
  split at h
  · cases h
  · split at h
    · cases h
    · cases h
    · cases h
    · rename_i name rest hargs
      split at h
      · rename_i hname
        obtain ⟨-, arguments, harguments, hfault, hrequest⟩ := hcommand h
        exact ⟨arguments, ⟨rest, hname ▸ hargs, harguments⟩, hfault, hrequest⟩
      · split at h
        · exact absurd (hcommand h).1 (by decide)
        · unfold readUnknown at h
          split at h <;> cases h

/-- Without fault, every variable that counts is understood. -/
theorem isSome_ofText?_of_argumentsFault? {defined : Variables} {files : Files}
    {arguments : Arguments}
    (h : argumentsFault? defined files arguments Scope.generate.parameters = none) {c : Choice}
    (hlast : lastGiven arguments c.flag = none) {text : String}
    (htext : defined.text? (variableOf c.flag) = some text) : (c.ofText? text).isSome = true := by
  have hnone : ∀ flag ∈ Scope.generate.parameters,
      parameterFault? defined files arguments (.flag flag) = none := by
    intro flag hflag
    unfold argumentsFault? at h
    split at h
    · cases h
    · rename_i hnone
      refine List.findSome?_eq_none_iff.mp hnone _ ?_
      rw [parameterOrder, Ordered.mem_distinct]
      exact List.mem_append_right _ (List.mem_cons_of_mem _ (List.mem_map_of_mem hflag))
  have htruth : ∀ {flag name}, lastGiven arguments flag = none →
      defined.text? (variableOf flag) = some text →
      truthFault? defined arguments flag name = none → (truthOf? text).isSome = true := by
    intro flag name hlast htext hfault
    rw [truthFault?, hlast, htext] at hfault
    by_contra hno
    simp [hno] at hfault
  cases c with
  | typePrefix => rfl
  | mergeTypes =>
    rw [Choice.ofText?, Option.isSome_map]
    · exact htruth hlast htext (hnone .mergeTypes (by decide))
    · exact fun h => nomatch h
  | skipValidation =>
    rw [Choice.ofText?, Option.isSome_map]
    · exact htruth hlast htext (hnone .skipValidation (by decide))
    · exact fun h => nomatch h

/-- **The options of a request are what its effective values amount to**,
for some arguments in some environment. -/
structure TakesFirst (environment : Environment) (args : List String) (arguments : Arguments)
    (request : GenerateRequest) : Prop where
  /-- The configuration file is the one that is given last. -/
  config : request.config = (lastGiven arguments .config).map (·.value)
  /-- An option has a value outside of it exactly if it is given on the
  command line or its variable holds a text. -/
  outside : ∀ c : Choice, (c.outside? environment.defined arguments).isSome = true
    ↔ (lastGiven arguments c.flag).isSome = true
      ∨ (environment.defined.text? (variableOf c.flag)).isSome = true
  /-- The options are those of the effective values, whatever files there
  are. -/
  options : ∀ (files : Files) (configured : Settings) (options : Options),
    Command.configured files request.config = .ok configured →
      (request.options files = .ok options
        ↔ Options.ofSettings (effective environment.defined arguments configured) = .ok options)
  /-- If effective values are refused, the command says so and nothing
  else. -/
  refused : ∀ (configured : Settings) (errors : List FieldError),
    Command.configured environment.files request.config = .ok configured →
      Options.ofSettings (effective environment.defined arguments configured) = .error errors →
        run environment args = .failed environment.files "" ("invalid options: "
          ++ refusalsText (effective environment.defined arguments configured) errors)
  /-- Of two configurations that agree on the options without value outside
  of them, the same is effective. -/
  overridden : ∀ configured configured' : Settings,
    (∀ c : Choice, c.outside? environment.defined arguments = none →
      configured.get? c.name = configured'.get? c.name) →
        effective environment.defined arguments configured
          = effective environment.defined arguments configured'
  /-- A value of the configuration that is effective is refused if its
  option refuses it. -/
  kept : ∀ (configured : Settings) (c : Choice) (value : Setting) (complaints : List FieldError),
    c.outside? environment.defined arguments = none → configured.get? c.name = some value →
      c.Refuses value complaints →
        ∃ errors, Options.ofSettings (effective environment.defined arguments configured)
            = .error errors
          ∧ ∀ e ∈ complaints, ⟨.key c.name :: e.place, e.complaint⟩ ∈ errors

/-- **Every option has the value of the first place that sets it.** -/
theorem takesFirst_run {environment : Environment} {args : List String} {request : GenerateRequest}
    (h : readRequest environment.defined environment.files args = .ok (.generate request)) :
    ∃ arguments, Generates args arguments ∧ TakesFirst environment args arguments request := by
  obtain ⟨arguments, hgenerates, hfault, hrequest⟩ := exists_generates_of_readRequest h
  have hoverrides : overridesOf environment.defined arguments = request.overrides :=
    congrArg GenerateRequest.overrides (Request.generate.inj hrequest)
  have hconfig : (lastGiven arguments .config).map (·.value) = request.config :=
    congrArg GenerateRequest.config (Request.generate.inj hrequest)
  have hsame : ∀ (configured : Settings) (c : Choice),
      (configured.override request.overrides).get? c.name
        = (effective environment.defined arguments configured).get? c.name := by
    intro configured c
    rw [← hoverrides, get?_override_overridesOf, get?_effective]
  refine ⟨arguments, hgenerates, hconfig.symm, fun c => ?_, ?_, ?_, ?_, ?_⟩
  · -- a variable that counts is understood, since the command line has no fault
    rw [Choice.outside?]
    cases hlast : lastGiven arguments c.flag with
    | some given => simp
    | none =>
      cases htext : environment.defined.text? (variableOf c.flag) with
      | none => simp
      | some text => simpa using isSome_ofText?_of_argumentsFault? hfault hlast htext
  · intro files configured options hconfigured
    simp only [GenerateRequest.options, hconfigured, ofSettings_congr (hsame configured)]
    cases Options.ofSettings (effective environment.defined arguments configured) with
    | ok options' => simp
    | error errors => exact iff_of_false (fun h => nomatch h) fun h => nomatch h
  · intro configured errors hconfigured herrors
    have hrefused : Options.ofSettings (configured.override request.overrides) = .error errors :=
      (ofSettings_congr (hsame configured)).trans herrors
    have hoptions : request.options environment.files
        = .error (.refused (configured.override request.overrides) errors) := by
      simp only [GenerateRequest.options, hconfigured, hrefused]
    rw [run, h]
    simp only [GenerateRequest.run, hoptions, OptionsFault.outcome, OptionsFault.message]
    rw [refusalsText_congr (hsame configured) hrefused]
  · intro configured configured' hagree
    refine List.filterMap_congr fun c _ => ?_
    rw [Choice.effective?, Choice.effective?]
    cases houtside : c.outside? environment.defined arguments with
    | some value => rfl
    | none => rw [hagree c houtside]
  · intro configured c value complaints houtside hvalue hrefuses
    refine exists_ofSettings_eq_error ?_ hrefuses
    rw [get?_effective, Choice.effective?, houtside, hvalue]
    rfl

/-- Options that are set in several places: sharing on the command line,
twice, and in the configuration, where what is set is no truth value, a
prefix there and in the environment, and the check in the environment. -/
def crowded : Environment where
  files :=
    [(["c.har"], .file []),
      (["o.yaml"], .file "merge_types: often\ntype_prefix: 1x\n".toUTF8.toList)]
  defined := [("HAR_SDK_TYPE_PREFIX", "Api"), ("HAR_SDK_SKIP_VALIDATION", "yes")]
  now := ""

/-- The command line. -/
def crowdedArgs : List String :=
  ["generate", "c.har", "-o", "out.ts", "--merge-types", "--config", "o.yaml", "--no-merge-types"]

/-- The request that is made by it. -/
def crowdedRequest : GenerateRequest where
  capture := "c.har"
  output := "out.ts"
  config := some "o.yaml"
  overrides :=
    [("merge_types", .truth false), ("type_prefix", .text "Api"), ("skip_validation", .truth true)]

/-- Where its options come from. -/
theorem takesFirst_run_crowded :
    readRequest crowded.defined crowded.files crowdedArgs = .ok (.generate crowdedRequest)
      ∧ ∃ arguments, Generates crowdedArgs arguments
        ∧ TakesFirst crowded crowdedArgs arguments crowdedRequest :=
  ⟨rfl, takesFirst_run rfl⟩

/-- Nothing is asked of what the configuration says. -/
example : (crowdedRequest.options crowded.files).toOption = some ⟨false, "Api", true⟩ := by
  decide +kernel

end Command

end TypedTraffic
