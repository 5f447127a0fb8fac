import TypedTraffic.Command.Files
import TypedTraffic.Command.Usage
import TypedTraffic.Ordered
import TypedTraffic.Schema.Scalar
import TypedTraffic.Setting

/-!
# Requests

A command line is understood as a request: a text to print, a capture to
generate a module from, or one to list the endpoints of. Parameters are
looked at in the order in which they are given – options, then the
capture, then what is not given – and the first fault is reported. What
is not given on the command line may be given in the environment, where
an empty text counts as nothing.
-/

namespace TypedTraffic.Command

/-- Environment variables by name. -/
abbrev Variables := List (String × String)

/-- What a module is generated from, and how. -/
structure GenerateRequest where
  /-- The path of the capture. -/
  capture : String
  /-- The path of the module. -/
  output : String
  /-- The path of the configuration file. -/
  config : Option String
  /-- What is set on the command line or in the environment. -/
  overrides : Settings

/-- **What a command line asks for.** -/
inductive Request where
  /-- A text to print. -/
  | print (text : String)
  /-- A module. -/
  | generate (request : GenerateRequest)
  /-- The endpoints of the capture at a path. -/
  | inspect (capture : String)

/-- A parameter of a command. -/
inductive Parameter where
  /-- The path of the capture. -/
  | capture
  /-- An option. -/
  | flag (flag : Flag)
  deriving DecidableEq

/-- The value given last for an option. -/
def lastGiven (arguments : Arguments) (flag : Flag) : Option Given :=
  arguments.given.reverse.find? fun given => given.flag.principal = flag

/-- The text of an environment variable, if it is not empty. -/
def Variables.text? (defined : Variables) (name : String) : Option String :=
  (defined.lookup name).filter (· ≠ "")

/-- The truth value of the text of an environment variable. -/
def truthOf? (s : String) : Option Bool :=
  let trimmed := Text.dropEndWhile Text.isBlank (s.toList.dropWhile Text.isBlank)
  if trimmed.isEmpty then some false
  else Schema.truthWords.lookup (String.ofList (trimmed.map Char.toLower))

/-- The environment variable of an option. -/
def variableOf : Flag → String
  | .mergeTypes => "HAR_SDK_MERGE_TYPES"
  | .typePrefix => "HAR_SDK_TYPE_PREFIX"
  | .skipValidation => "HAR_SDK_SKIP_VALIDATION"
  | _ => ""

/-- The fault of a parameter that names a file to read. -/
def fileFault? (files : Files) (parameter path : String) : Option UsageFault :=
  match files.at? path with
  | none => some (.fileMissing parameter path)
  | some .directory => some (.fileIsDirectory parameter path)
  | some (.file _) => none

/-- The fault of an option that is a truth value, if it is not given on
the command line. -/
def truthFault? (defined : Variables) (arguments : Arguments) (flag : Flag) (name : String) :
    Option UsageFault :=
  match lastGiven arguments flag, defined.text? (variableOf flag) with
  | none, some value => if (truthOf? value).isSome then none else some (.notTruth name value)
  | _, _ => none

/-- **The fault of a parameter.** -/
def parameterFault? (defined : Variables) (files : Files) (arguments : Arguments) :
    Parameter → Option UsageFault
  | .capture =>
    match arguments.plain with
    | [] => some .captureMissing
    | path :: _ => fileFault? files "HAR_PATH" path
  | .flag .output => if (lastGiven arguments .output).isSome then none else some .outputMissing
  | .flag .config => (lastGiven arguments .config).bind fun given =>
      fileFault? files "--config" given.value
  | .flag .mergeTypes => truthFault? defined arguments .mergeTypes "--merge-types"
  | .flag .skipValidation => truthFault? defined arguments .skipValidation "--skip-validation"
  | .flag _ => none

/-- The parameters of a command in the order in which they are looked
at. -/
def parameterOrder (arguments : Arguments) (flags : List Flag) : List Parameter :=
  Ordered.distinct
    ((arguments.given.map fun given => .flag given.flag.principal) ++ .capture :: flags.map .flag)

/-- The first fault of the arguments of a command. -/
def argumentsFault? (defined : Variables) (files : Files) (arguments : Arguments)
    (flags : List Flag) : Option UsageFault :=
  match (parameterOrder arguments flags).findSome? (parameterFault? defined files arguments) with
  | some fault => some fault
  | none => if arguments.plain.length ≤ 1 then none else some (.extra arguments.plain.tail)

/-- A truth value that is set on the command line or in the
environment. -/
def truthSetting? (defined : Variables) (arguments : Arguments) (flag : Flag) :
    Option Setting :=
  match lastGiven arguments flag with
  | some given => some (.truth (given.flag = flag))
  | none => ((defined.text? (variableOf flag)).bind truthOf?).map .truth

/-- A text that is set on the command line or in the environment. -/
def textSetting? (defined : Variables) (arguments : Arguments) (flag : Flag) :
    Option Setting :=
  match lastGiven arguments flag with
  | some given => some (.text given.value)
  | none => (defined.text? (variableOf flag)).map .text

/-- **What is set on the command line or in the environment.** -/
def overridesOf (defined : Variables) (arguments : Arguments) : Settings :=
  [("merge_types", truthSetting? defined arguments .mergeTypes),
   ("type_prefix", textSetting? defined arguments .typePrefix),
   ("skip_validation", truthSetting? defined arguments .skipValidation)].filterMap
    fun (name, value) => value.map fun value => (name, value)

/-- The request that the arguments of a command make, if they have no
fault. -/
def requestOf (defined : Variables) (arguments : Arguments) : Scope → Request
  | .program => .print Scope.program.help
  | .generate =>
    .generate
      { capture := arguments.plain.head?.getD ""
        output := ((lastGiven arguments .output).map (·.value)).getD ""
        config := (lastGiven arguments .config).map (·.value)
        overrides := overridesOf defined arguments }
  | .inspect => .inspect (arguments.plain.head?.getD "")

/-- The options of a command that may be left out, in order. -/
def Scope.parameters : Scope → List Flag
  | .generate => [.output, .config, .mergeTypes, .typePrefix, .skipValidation]
  | _ => []

/-- The request of a command. -/
def readCommand (defined : Variables) (files : Files) (scope : Scope) (args : List String) :
    Except UsageError Request :=
  match readArguments scope.flags true args with
  | .error fault => .error ⟨scope, .argument fault⟩
  | .ok arguments =>
    if arguments.given.any (·.flag = .help) then .ok (.print scope.help)
    else
      match argumentsFault? defined files arguments scope.parameters with
      | some fault => .error ⟨scope, fault⟩
      | none => .ok (requestOf defined arguments scope)

/-- The text that an option of the program prints. -/
def programText (given : Given) : String :=
  if given.flag = .version then versionText else Scope.program.help

/-- What is answered if no command has a name. A name that looks like an
option is read as one. -/
def readUnknown (name : String) (args : List String) : Except UsageError Request :=
  match if isFlag name.toList then readArguments Scope.program.flags false (name :: args)
    else .ok ⟨[], []⟩ with
  | .error fault => .error ⟨.program, .argument fault⟩
  | .ok ⟨given :: _, _⟩ => .ok (.print (programText given))
  | .ok ⟨[], _⟩ =>
    .error ⟨.program, .unknownCommand name (Text.suggestions commandNames name)⟩

/-- **The request of a command line.** -/
def readRequest (defined : Variables) (files : Files) (args : List String) :
    Except UsageError Request :=
  if args.isEmpty then .error ⟨.program, .noArguments⟩
  else
    match readArguments Scope.program.flags false args with
    | .error fault => .error ⟨.program, .argument fault⟩
    | .ok ⟨given :: _, _⟩ => .ok (.print (programText given))
    | .ok ⟨[], []⟩ => .error ⟨.program, .noCommand⟩
    | .ok ⟨[], name :: args⟩ =>
      if name = "generate" then readCommand defined files .generate args
      else if name = "inspect" then readCommand defined files .inspect args
      else readUnknown name args

end TypedTraffic.Command
