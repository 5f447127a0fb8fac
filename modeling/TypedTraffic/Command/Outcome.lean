import TypedTraffic.Capture.Recording
import TypedTraffic.Command.Files
import TypedTraffic.Command.Request
import TypedTraffic.Session.Basic
import TypedTraffic.Terminal.Markup
import TypedTraffic.Text.LineEnd
import TypedTraffic.Yaml.Value

/-!
# What a command leaves behind

A command prints, writes files and ends with an exit code. An error that
the command has an answer for is printed on its own line; any other one
breaks the command off.
-/

namespace TypedTraffic.Command

/-- What a command line is run in. -/
structure Environment where
  /-- The files. -/
  files : Files
  /-- The environment variables. -/
  defined : Variables
  /-- The time, as it is written into a generated module. -/
  now : String

/-- Bytes that hold no text, or a text that has no bytes. -/
inductive Undecoded where
  /-- A capture is not in UTF-8. -/
  | read (fault : Text.Utf8.Fault)
  /-- A module has no UTF-8. -/
  | written (fault : Text.EncodingFault)
  /-- What is to be printed has no UTF-8. -/
  | printed (fault : Text.EncodingFault)

/-- The text of such an error. -/
def Undecoded.message : Undecoded → String
  | .read fault => fault.message
  | .written fault => fault.message
  | .printed fault => Terminal.faultMessage fault

/-- An error that breaks a command off. -/
inductive Interruption where
  /-- Bytes and texts do not go together. -/
  | encoding (e : Undecoded)
  /-- A capture exceeds a limit of the reader. -/
  | limit (e : Capture.LoadError)
  /-- A run stops. -/
  | run (e : Session.RunError)
  /-- A scalar of a configuration file is no truth value. -/
  | truth (word : String)

/-- The text of an error that breaks a command off. -/
def Interruption.message : Interruption → String
  | .encoding e => e.message
  | .limit e => e.message
  | .run e => e.message
  | .truth word => Text.quoted word

/-- **What a command leaves behind.** -/
structure Outcome where
  /-- The exit code. -/
  exitCode : Nat
  /-- What is printed. -/
  output : String
  /-- What is printed as errors. -/
  errors : String
  /-- The files. -/
  files : Files
  /-- The error that broke the command off, if one did. -/
  interruption : Option Interruption

namespace Outcome

/-- The outcome of a command that is done. -/
def done (files : Files) (output : String) : Outcome := ⟨0, output, "", files, none⟩

/-- The line of an error. -/
def errorLine (message : String) : String :=
  Terminal.printed (Terminal.styled "red" ("Error: ".toList ++ Terminal.escape message.toList))

/-- The outcome of a command that ends with an error. -/
def failed (files : Files) (output message : String) : Outcome :=
  ⟨1, output ++ errorLine message, "", files, none⟩

/-- The outcome of a command that is broken off. -/
def interrupted (files : Files) (output : String) (e : Interruption) : Outcome :=
  ⟨1, output, "", files, some e⟩

/-- The outcome of a command line that is refused. -/
def refused (files : Files) (e : UsageError) : Outcome := ⟨2, "", e.report, files, none⟩

end Outcome

/-- Why a capture is not read from a file. -/
inductive CaptureFault where
  /-- The file is not read. -/
  | file (fault : FileFault)
  /-- The file is not in UTF-8. -/
  | encoding (fault : Text.Utf8.Fault)
  /-- The file holds no capture. -/
  | load (e : Capture.LoadError)

/-- The outcome of a command that does not get its capture. -/
def CaptureFault.outcome (files : Files) (output : String) : CaptureFault → Outcome
  | .file fault => .failed files output fault.message
  | .encoding fault => .interrupted files output (.encoding (.read fault))
  | .load (.limit e) => .interrupted files output (.limit (.limit e))
  | .load e => .failed files output e.message

/-- The bytes of the file at a path. -/
def Files.read (files : Files) (path : String) : Except FileFault (List UInt8) :=
  match files.at? path with
  | some (.file bytes) => .ok bytes
  | some .directory => .error ⟨.isDirectory, path⟩
  | none => .error ⟨.missing, path⟩

/-- **The capture in a file**, with the outline checked first if
`outline` is set. -/
def Files.capture (files : Files) (path : String) (outline : Bool) :
    Except CaptureFault Recording :=
  match files.read path with
  | .error fault => .error (.file fault)
  | .ok bytes =>
    match Text.Utf8.decode bytes with
    | .error fault => .error (.encoding fault)
    | .ok text =>
      match Recording.load outline (String.ofList (Text.unified text.toList)) with
      | .error e => .error (.load e)
      | .ok recording => .ok recording

end TypedTraffic.Command
