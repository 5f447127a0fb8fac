import TypedTraffic.Command.Arguments
import TypedTraffic.Text.Quoted

/-!
# Usage

The program has two commands: one that generates a module, and one that
lists endpoints. What is wrong with a command line is reported together
with how the command is used.
-/

namespace TypedTraffic.Command

/-- What a command line is about. -/
inductive Scope where
  /-- The program. -/
  | program
  /-- The command that generates a module. -/
  | generate
  /-- The command that lists endpoints. -/
  | inspect
  deriving DecidableEq

/-- The words a command line of a scope starts with. -/
def Scope.words : Scope → String
  | .program => "har-sdk"
  | .generate => "har-sdk generate"
  | .inspect => "har-sdk inspect"

/-- How a command line of a scope goes on. -/
def Scope.operands : Scope → String
  | .program => "[OPTIONS] COMMAND [ARGS]..."
  | .generate => "[OPTIONS] HAR_PATH"
  | .inspect => "[OPTIONS] HAR_PATH"

/-- The names of the commands. -/
def commandNames : List String := ["generate", "inspect"]

/-- The options of a scope. -/
def Scope.flags : Scope → FlagNames
  | .program => [("--version", .version), ("--help", .help)]
  | .generate =>
    [("-o", .output), ("--output", .output), ("--config", .config),
     ("--merge-types", .mergeTypes), ("--no-merge-types", .keepTypes),
     ("--type-prefix", .typePrefix), ("--skip-validation", .skipValidation), ("--help", .help)]
  | .inspect => [("--help", .help)]

/-- The line that says how a command is used. -/
def Scope.usage (scope : Scope) : String :=
  "Usage: " ++ scope.words ++ " " ++ scope.operands ++ "\n"

/-- What the help text of a scope says behind the usage. -/
def Scope.helpLines : Scope → List String
  | .program =>
    ["  Generate typed TypeScript SDKs from captured HTTP traffic.",
     "",
     "Options:",
     "  --version  Show the version and exit.",
     "  --help     Show this message and exit.",
     "",
     "Commands:",
     "  generate  Generate a TypeScript SDK from a HAR capture.",
     "  inspect   List the endpoint groups a HAR capture produces."]
  | .generate =>
    ["  Generate a TypeScript SDK from a HAR capture.",
     "",
     "Options:",
     "  -o, --output TEXT               Output TypeScript file (.ts)  [required]",
     "  --config FILE                   YAML file with generator options",
     "  --merge-types / --no-merge-types",
     "                                  Collapse structurally identical types into one",
     "                                  definition",
     "  --type-prefix TEXT              Prefix prepended to every generated type name",
     "  --skip-validation               Do not check the HAR top-level structure",
     "                                  before generating",
     "  --help                          Show this message and exit."]
  | .inspect =>
    ["  List the endpoint groups a HAR capture produces.",
     "",
     "Options:",
     "  --help  Show this message and exit."]

/-- **The help text of a scope.** -/
def Scope.help (scope : Scope) : String :=
  scope.usage ++ "\n" ++ "\n".intercalate scope.helpLines ++ "\n"

/-- The line that names the version. -/
def versionText : String := "har-sdk, version 0.1.0\n"

/-- Why a command line is refused. -/
inductive UsageFault where
  /-- There are no arguments at all. -/
  | noArguments
  /-- The arguments are not understood. -/
  | argument (fault : ArgumentFault)
  /-- No command is named. -/
  | noCommand
  /-- There is no command of a name, but some of similar names. -/
  | unknownCommand (name : String) (similar : List String)
  /-- The capture is not named. -/
  | captureMissing
  /-- The file to write is not named. -/
  | outputMissing
  /-- Nothing is at the path given for a parameter. -/
  | fileMissing (parameter path : String)
  /-- A directory is at the path given for a parameter. -/
  | fileIsDirectory (parameter path : String)
  /-- What is given for a parameter is no truth value. -/
  | notTruth (parameter value : String)
  /-- There are arguments too many. -/
  | extra (arguments : List String)
  deriving DecidableEq

/-- The words an environment variable may state a truth value in, as a
message lists them. -/
def recognizedWords : String := ", 0, 1, f, false, n, no, off, on, t, true, y, yes"

/-- What is added to a message about a name if there are similar names. -/
def suggestionText (names : List String) : String :=
  let shown := ", ".intercalate (names.map Text.quoted)
  match names with
  | [] => ""
  | [_] => " Did you mean " ++ shown ++ "?"
  | _ => " (Did you mean one of: " ++ shown ++ "?)"

/-- The text of a fault. -/
def UsageFault.message : UsageFault → String
  | .noArguments => ""
  | .argument (.unknown name similar) =>
    "No such option " ++ Text.quoted name ++ "." ++ suggestionText similar
  | .argument (.valueMissing name) => "Option " ++ Text.quoted name ++ " requires an argument."
  | .argument (.valueGiven name) => "Option " ++ Text.quoted name ++ " does not take a value."
  | .noCommand => "Missing command."
  | .unknownCommand name similar =>
    "No such command " ++ Text.quoted name ++ "." ++ suggestionText similar
  | .captureMissing => "Missing argument 'HAR_PATH'."
  | .outputMissing => "Missing option '-o' / '--output'."
  | .fileMissing parameter path =>
    "Invalid value for '" ++ parameter ++ "': File " ++ Text.quoted path ++ " does not exist."
  | .fileIsDirectory parameter path =>
    "Invalid value for '" ++ parameter ++ "': File " ++ Text.quoted path ++ " is a directory."
  | .notTruth parameter value =>
    "Invalid value for '" ++ parameter ++ "': " ++ Text.quoted value
      ++ " is not a valid boolean. Recognized values: " ++ recognizedWords
  | .extra arguments =>
    "Got unexpected extra argument" ++ (if arguments.length = 1 then "" else "s") ++ " ("
      ++ " ".intercalate arguments ++ ")"

/-- A fault and the scope it is about. -/
structure UsageError where
  /-- The scope. -/
  scope : Scope
  /-- What is wrong. -/
  fault : UsageFault

/-- **The report of a fault**: how the command is used, and what is
wrong. A fault in the value of an option is reported alone, and a
command line without arguments is answered with the help text. -/
def UsageError.report (e : UsageError) : String :=
  let line := "Error: " ++ e.fault.message ++ "\n"
  match e.fault with
  | .noArguments => e.scope.help
  | .argument (.valueMissing _) => line
  | .argument (.valueGiven _) => line
  | _ => e.scope.usage ++ "Try '" ++ e.scope.words ++ " --help' for help.\n\n" ++ line

end TypedTraffic.Command
