import TypedTraffic.Client.Module
import TypedTraffic.Command.Outcome
import TypedTraffic.Configuration
import TypedTraffic.Setting.Display

/-!
# Generating a module

The options are read first, then the capture; the module is written last.
On the way the command says what it does, and repeats the notices of the
run.
-/

namespace TypedTraffic.Command

open Schema

/-! ## Options -/

/-- Where the errors of options are explained. -/
def explanations : String := "https://errors.pydantic.dev/2.14/v/"

/-- One step of the way to a field. -/
def stepText : PathStep → String
  | .key name => name
  | .index i => toString i

/-- The value that is set for the field of an error. -/
def valueAt (settings : Settings) (e : FieldError) : Setting :=
  match e.place with
  | .key name :: _ => (settings.get? name).getD .null
  | _ => .null

/-- The lines about one option that is refused. -/
def refusalText (settings : Settings) (e : FieldError) : String :=
  let value := valueAt settings e
  ".".intercalate (e.place.map stepText) ++ "\n  " ++ e.complaint.message
    ++ " [type=" ++ e.complaint.code ++ ", input_value=" ++ abridged value.shown
    ++ ", input_type=" ++ value.kindName ++ "]\n    For further information visit "
    ++ explanations ++ e.complaint.code

/-- The text about options that are refused. -/
def refusalsText (settings : Settings) (errors : List FieldError) : String :=
  "\n".intercalate
    ((toString errors.length ++ " validation error" ++ (if errors.length = 1 then "" else "s")
        ++ " for GeneratorOptions")
      :: errors.map (refusalText settings))

/-- Why there are no options to run with. -/
inductive OptionsFault where
  /-- The configuration file is not read. -/
  | file (fault : FileFault)
  /-- The configuration is not understood. -/
  | configuration (e : Configuration.Error)
  /-- Options are refused. -/
  | refused (settings : Settings) (errors : List FieldError)

/-- The text of a fault. -/
def OptionsFault.message : OptionsFault → String
  | .file fault => fault.message
  | .configuration e => e.message
  | .refused settings errors => refusalsText settings errors

/-- The settings of the configuration file, if there is one. -/
def configured (files : Files) : Option String → Except OptionsFault Settings
  | none => .ok []
  | some path =>
    match files.read path with
    | .error fault => .error (.file fault)
    | .ok bytes =>
      match Configuration.ofBytes path bytes with
      | .ok settings => .ok settings
      | .error e => .error (.configuration e)

/-- **The options of a request**: what is set for it goes over the
configuration file. -/
def GenerateRequest.options (files : Files) (request : GenerateRequest) :
    Except OptionsFault Options :=
  match configured files request.config with
  | .error fault => .error fault
  | .ok settings =>
    let settings := settings.override request.overrides
    match Options.ofSettings settings with
    | .ok options => .ok options
    | .error errors => .error (.refused settings errors)

/-- The outcome of a command that does not get its options. -/
def OptionsFault.outcome (files : Files) : OptionsFault → Outcome
  | .configuration (.yaml (.truth word)) => .interrupted files "" (.truth word)
  | fault => .failed files "" ("invalid options: " ++ fault.message)

/-! ## The run -/

/-- A line that names a path behind some words. -/
def readingLine (path : String) : String :=
  Terminal.printed
    (Terminal.styled "bold" "Reading HAR file:".toList ++ ' ' :: Terminal.escape path.toList)

/-- The line of a report. -/
def reportLine (report : Session.Progress) : String := "  " ++ report.message ++ "\n"

/-- The lines of some notices. -/
def noticeLines (notices : List Notice) : String := String.join (notices.map Notice.line)

/-- The outcome of a command whose run stops, given what was printed before
the run and the report that the run begins with. -/
def runOutcome (files : Files) (output report : String) : Session.RunError → Outcome
  | .groups fault => .interrupted files output (.run (.groups fault))
  | .binding (.unprinted u) =>
    .interrupted files (output ++ report ++ noticeLines u.earlier) (.encoding (.printed u.fault))
  | .binding e => .interrupted files (output ++ report) (.run (.binding e))

/-- The line at the end. -/
def generatedLine (path : String) : String :=
  Terminal.printed
    (Terminal.styled "green" ("Generated SDK ".toList ++ Terminal.escape path.toList))

/-- The bytes of a text, or none if it cannot be encoded. -/
def bytesOf (standIns : Text.StandIns) (text : String) : List UInt8 :=
  if (standIns.fault? text).isSome then [] else text.toUTF8.toList

/-- Write the module of a run. The file is emptied before the text is
encoded. -/
def writeModule (environment : Environment) (path output : String) (standIns : Text.StandIns)
    (sdk : Session.Sdk) : Outcome :=
  let text := Client.moduleText environment.now (sdk.types.map (·.definition)) sdk.bindings
  match environment.files.write path (bytesOf standIns text), standIns.fault? text with
  | .error halt, _ => .failed halt.files output halt.fault.message
  | .ok files, some fault => .interrupted files output (.encoding (.written fault))
  | .ok files, none => .done files (output ++ generatedLine path)

/-- **Generate a module.** -/
def GenerateRequest.run (environment : Environment) (request : GenerateRequest) : Outcome :=
  match request.options environment.files with
  | .error fault => fault.outcome environment.files
  | .ok options =>
    let output := readingLine request.capture
    match environment.files.capture request.capture (!options.skipValidation) with
    | .error fault => fault.outcome environment.files output
    | .ok recording =>
      let output :=
        output ++ "  Loaded " ++ toString recording.capture.exchanges.length ++ " entries\n"
      let report := reportLine (Session.grouped recording.capture)
      match recording.generate options with
      | .error e => runOutcome environment.files output report e
      | .ok (sdk, session) =>
        writeModule environment request.output
          (output ++ report ++ noticeLines session.notices ++ reportLine sdk.inferred
            ++ "Writing TypeScript SDK...\n")
          recording.standIns sdk

end TypedTraffic.Command
