import TypedTraffic.Text.Quoted
import TypedTraffic.Text.Split

/-!
# Files

A command is given the files it may read and hands back those it leaves
behind. A path is looked up name by name from the working directory, or
from the root if it starts with a slash; every place on the way has to
be a directory. Where nothing is known of a place, nothing is there.
-/

namespace TypedTraffic.Command

/-- What stands at a place. -/
inductive Entry where
  /-- A file with its bytes. -/
  | file (bytes : List UInt8)
  /-- A directory. -/
  | directory
  deriving DecidableEq

/-- The names that lead to a place: from the working directory, or
behind a slash from the root. -/
abbrev Place := List String

/-- **Files and directories by place.** -/
abbrev Files := List (Place × Entry)

/-- Why a file is not read or written. -/
inductive FileError where
  /-- Nothing is there. -/
  | missing
  /-- Something is there already. -/
  | occupied
  /-- There is a file where a directory is needed. -/
  | notDirectory
  /-- There is a directory where a file is needed. -/
  | isDirectory
  /-- A name is too long. -/
  | nameTooLong
  deriving DecidableEq

/-- The number of an error and the words for it. -/
def FileError.text : FileError → Nat × String
  | .missing => (2, "No such file or directory")
  | .occupied => (17, "File exists")
  | .notDirectory => (20, "Not a directory")
  | .isDirectory => (21, "Is a directory")
  | .nameTooLong => (36, "File name too long")

/-- An error at a path. -/
structure FileFault where
  /-- What is wrong. -/
  error : FileError
  /-- The path, as it is written. -/
  path : String
  deriving DecidableEq

/-- The text of an error at a path. -/
def FileFault.message (f : FileFault) : String :=
  let (number, words) := f.error.text
  "[Errno " ++ toString number ++ "] " ++ words ++ ": " ++ Text.quoted f.path

/-! ## Places -/

/-- The root directory. -/
def rootPlace : Place := ["/"]

/-- The place above a place. -/
def Place.above (place : Place) : Place :=
  if place = rootPlace then rootPlace
  else if place.all (· == "..") then place ++ [".."]
  else place.dropLast

/-- What stands at a place. The working directory, those above it and
the root are always there. -/
def Files.entryAt? (files : Files) (place : Place) : Option Entry :=
  if place = rootPlace ∨ place.all (· == "..") then some .directory else files.lookup place

/-- The most bytes of a name. -/
def nameLimit : Nat := 255

/-- The place a name leads to. -/
def Files.enter (files : Files) (place : Place) (name : String) : Except FileError Place :=
  match files.entryAt? place with
  | none => .error .missing
  | some (.file _) => .error .notDirectory
  | some .directory =>
    if name = "" ∨ name = "." then .ok place
    else if name = ".." then .ok place.above
    else if nameLimit < name.utf8ByteSize then .error .nameTooLong
    else .ok (place ++ [name])

/-- The place some names lead to. -/
def Files.follow (files : Files) : Place → List String → Except FileError Place
  | place, [] => .ok place
  | place, name :: names =>
    match files.enter place name with
    | .ok place => files.follow place names
    | .error e => .error e

/-- The names of a path, empty ones included. -/
def namesOf (path : String) : List String := (Text.split '/' path.toList).map String.ofList

/-- The place a path starts from. -/
def startOf (path : String) : Place := if path.toList.head? = some '/' then rootPlace else []

/-- **What stands at a path.** -/
def Files.at? (files : Files) (path : String) : Option Entry :=
  if path = "" then none
  else
    match files.follow (startOf path) (namesOf path) with
    | .ok place => files.entryAt? place
    | .error _ => none

/-- The files with something put at a place. -/
def Files.set (files : Files) (place : Place) (entry : Entry) : Files :=
  files.filter (fun known => known.1 ≠ place) ++ [(place, entry)]

/-! ## Writing -/

/-- A path with its superfluous names left out. -/
structure Path where
  /-- Where the path starts from. -/
  start : Place
  /-- The names, last one first. -/
  names : List String

/-- The path of a text. -/
def Path.ofText (path : String) : Path :=
  ⟨startOf path, ((namesOf path).filter fun name => name ≠ "" ∧ name ≠ ".").reverse⟩

/-- The text of a path. -/
def Path.text (p : Path) : String :=
  let names := "/".intercalate p.names.reverse
  if p.start = rootPlace then "/" ++ names else if p.names.isEmpty then "." else names

/-- The path of the directory around. -/
def Path.parent (p : Path) : Path := { p with names := p.names.tail }

/-- The place of a path. -/
def Files.locate (files : Files) (p : Path) : Except FileError Place :=
  files.follow p.start p.names.reverse

/-- The files with one directory more. -/
def Files.addDirectory (files : Files) (p : Path) : Except FileError Files :=
  match files.locate p with
  | .error e => .error e
  | .ok place =>
    match files.entryAt? place with
    | some _ => .error .occupied
    | none => .ok (files.set place .directory)

/-- Whether a directory is at a path. -/
def Files.hasDirectory (files : Files) (p : Path) : Bool :=
  match files.locate p with
  | .ok place => files.entryAt? place == some .directory
  | .error _ => false

/-- Files that are left behind when something is not written: directories
that were made on the way stay. -/
structure Halt where
  /-- What is wrong. -/
  fault : FileFault
  /-- The files. -/
  files : Files

/-- **The files with a directory and those around it**, where they are
not there yet; the names of the path come last one first. -/
def Files.ensureDirectory (files : Files) (start : Place) : List String → Except Halt Files
  | [] => .ok files
  | name :: names =>
    let path : Path := ⟨start, name :: names⟩
    let settle (files : Files) (e : FileError) : Except Halt Files :=
      if files.hasDirectory path then .ok files else .error ⟨⟨e, path.text⟩, files⟩
    match files.addDirectory path with
    | .ok files => .ok files
    | .error .missing =>
      match files.ensureDirectory start names with
      | .error halt => .error halt
      | .ok files =>
        match files.addDirectory path with
        | .ok files => .ok files
        | .error e => settle files e
    | .error e => settle files e

/-- **The files with one written**, in directories that are made where
they are not there yet. -/
def Files.write (files : Files) (path : String) (bytes : List UInt8) : Except Halt Files :=
  let path := Path.ofText path
  match files.ensureDirectory path.start path.parent.names with
  | .error halt => .error halt
  | .ok files =>
    match files.locate path with
    | .error e => .error ⟨⟨e, path.text⟩, files⟩
    | .ok place =>
      if files.entryAt? place = some .directory then .error ⟨⟨.isDirectory, path.text⟩, files⟩
      else .ok (files.set place (.file bytes))

end TypedTraffic.Command
