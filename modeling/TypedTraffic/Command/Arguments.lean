import TypedTraffic.Text.Similar
import TypedTraffic.Text.Split

/-!
# Arguments

The arguments of a command are options and plain arguments. An option
has names of one letter behind a dash or of several behind two; if it
takes a value, the value is the next argument, or stands behind an equals
sign, or directly behind the letter. Every option of one letter takes a
value, so letters are not joined. Behind two dashes alone all arguments
are plain.
-/

namespace TypedTraffic.Command

/-- **The options.** -/
inductive Flag where
  /-- Print a help text. -/
  | help
  /-- Print the version. -/
  | version
  /-- The file to write. -/
  | output
  /-- The configuration file. -/
  | config
  /-- Share definitions of one shape. -/
  | mergeTypes
  /-- Do not share definitions. -/
  | keepTypes
  /-- What is put in front of type names. -/
  | typePrefix
  /-- Leave the outline of the capture unchecked. -/
  | skipValidation
  deriving DecidableEq

/-- Whether an option takes a value. -/
def Flag.takesValue : Flag → Bool
  | .output => true
  | .config => true
  | .typePrefix => true
  | _ => false

/-- The option that an option is another form of. -/
def Flag.principal : Flag → Flag
  | .keepTypes => .mergeTypes
  | flag => flag

/-- An option that is given, with its value if it takes one. -/
structure Given where
  /-- The option. -/
  flag : Flag
  /-- Its value. -/
  value : String
  deriving DecidableEq

/-- Why arguments are not understood. -/
inductive ArgumentFault where
  /-- There is no option of a name, but some of similar names. -/
  | unknown (name : String) (similar : List String)
  /-- An option stands at the end without its value. -/
  | valueMissing (name : String)
  /-- An option that takes no value has one. -/
  | valueGiven (name : String)
  deriving DecidableEq

/-- What is to be done with an argument that is an option. -/
inductive Reading where
  /-- The option is complete. -/
  | complete (given : Given)
  /-- The value of the option follows. -/
  | awaiting (flag : Flag) (name : String)
  deriving DecidableEq

/-- The names of the options of a command. -/
abbrev FlagNames := List (String × Flag)

/-- Whether a name has one letter behind a single dash. -/
def isLetter (name : String) : Bool := name.toList.length == 2

/-- An option of one letter, from its argument on. -/
def readLetter (names : FlagNames) (arg : List Char) : Except ArgumentFault Reading :=
  let name := String.ofList (arg.take 2)
  match names.lookup name with
  | none => .error (.unknown name [])
  | some flag =>
    match arg.drop 2 with
    | [] => .ok (.awaiting flag name)
    | value => .ok (.complete ⟨flag, String.ofList value⟩)

/-- **The option that an argument is.** -/
def readFlag (names : FlagNames) (arg : List Char) : Except ArgumentFault Reading :=
  let (start, value) := Text.cut '=' arg
  let name := String.ofList start
  let words := names.filter fun entry => !isLetter entry.1
  match words.lookup name with
  | some flag =>
    match flag.takesValue, value with
    | true, some value => .ok (.complete ⟨flag, String.ofList value⟩)
    | true, none => .ok (.awaiting flag name)
    | false, some _ => .error (.valueGiven name)
    | false, none => .ok (.complete ⟨flag, ""⟩)
  | none =>
    if "--".toList.isPrefixOf arg then
      .error (.unknown name (Text.suggestions (words.map Prod.fst) name))
    else readLetter names arg

/-- Whether an argument is an option. -/
def isFlag (arg : List Char) : Bool := arg.head? == some '-' && 1 < arg.length

/-- Arguments taken apart. -/
structure Arguments where
  /-- The options, in order. -/
  given : List Given
  /-- The plain arguments, in order. -/
  plain : List String

/-- The arguments with an option in front. -/
def addGiven (given : Given) : Except ArgumentFault Arguments → Except ArgumentFault Arguments
  | .ok arguments => .ok { arguments with given := given :: arguments.given }
  | .error e => .error e

/-- The arguments with a plain one in front. -/
def addPlain (arg : String) : Except ArgumentFault Arguments → Except ArgumentFault Arguments
  | .ok arguments => .ok { arguments with plain := arg :: arguments.plain }
  | .error e => .error e

/-- **Arguments taken apart.** If options do not mix with plain
arguments, everything from the first plain argument on is plain. -/
def readArguments (names : FlagNames) (mixed : Bool) : List String → Except ArgumentFault Arguments
  | [] => .ok ⟨[], []⟩
  | arg :: args =>
    if arg = "--" then .ok ⟨[], args⟩
    else if isFlag arg.toList then
      match readFlag names arg.toList with
      | .error e => .error e
      | .ok (.complete given) => addGiven given (readArguments names mixed args)
      | .ok (.awaiting flag name) =>
        match args with
        | [] => .error (.valueMissing name)
        | value :: args => addGiven ⟨flag, value⟩ (readArguments names mixed args)
    else if mixed then addPlain arg (readArguments names mixed args)
    else .ok ⟨[], arg :: args⟩

end TypedTraffic.Command
