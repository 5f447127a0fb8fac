import Std.Time.DateTime.Timestamp
import TypedTraffic.Command.Run

/-!
# The program

The files that the arguments may name and the environment variables are
read, the command line is run, and what it leaves behind is printed and
written.
-/

namespace TypedTraffic.Command

/-- The paths that an argument may name: all of it, what stands behind
an equals sign, and what stands behind a letter. -/
def pathsIn (arg : String) : List String :=
  let behindEquals := ((Text.cut '=' arg.toList).2.map String.ofList).toList
  [arg, String.ofList (arg.toList.drop 2)] ++ behindEquals

/-- The text of a place. -/
def placeText (place : Place) : String :=
  if place.head? = some "/" then "/" ++ "/".intercalate place.tail else "/".intercalate place

/-- What stands at a path on disk. -/
def probe (path : String) : IO (Option Entry) := do
  try
    let found ← IO.FS.realPath path
    if ← found.isDir then return some .directory
    else return some (.file (← IO.FS.readBinFile path).toList)
  catch _ => return none

/-- The files with those on the way of a path, as far as they are there. -/
def probePath (known : Files) (path : String) : IO Files := do
  let mut files := known
  let mut place := startOf path
  for name in namesOf path do
    match files.enter place name with
    | .error _ => return files
    | .ok next =>
      if (files.entryAt? next).isNone then
        if let some entry ← probe (placeText next) then
          files := files.set next entry
      place := next
  return files

/-- The files that some arguments may name. -/
def probeArguments (args : List String) : IO Files := do
  let mut files : Files := []
  for arg in args do
    for path in pathsIn arg do
      files ← probePath files path
  return files

/-- The environment variables that options may be given in. -/
def readVariables : IO Variables := do
  let mut defined : Variables := []
  for flag in [Flag.mergeTypes, .typePrefix, .skipValidation] do
    if let some value ← IO.getEnv (variableOf flag) then
      defined := (variableOf flag, value) :: defined
  return defined

/-- Put what a command leaves behind on disk. -/
def store (before after : Files) : IO Unit := do
  for (place, entry) in after do
    unless before.contains (place, entry) do
      match entry with
      | .directory => IO.FS.createDirAll (placeText place)
      | .file bytes => IO.FS.writeBinFile (placeText place) bytes.toByteArray

end TypedTraffic.Command

open TypedTraffic TypedTraffic.Command

/-- **The program.** -/
def main (args : List String) : IO UInt32 := do
  let files ← probeArguments args
  let time ← Std.Time.Timestamp.now
  let micros := (time.toNanosecondsSinceUnixEpoch.val / 1000).toNat
  let environment : Environment := ⟨files, ← readVariables, (Moment.ofMicroseconds micros).text⟩
  let outcome := run environment args
  IO.print outcome.output
  IO.eprint outcome.errors
  if let some interruption := outcome.interruption then
    IO.eprintln ("Error: " ++ interruption.message)
  store files outcome.files
  return UInt32.ofNat outcome.exitCode
