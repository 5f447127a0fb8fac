import TypedTraffic.Options
import TypedTraffic.Text.LineEnd
import TypedTraffic.Yaml.Value

/-!
# Configuration files

A configuration file is a YAML document. An empty one sets nothing, any
other is a mapping whose text keys name what is set. What is set
elsewhere goes over it.
-/

namespace TypedTraffic.Configuration

/-- Why a configuration file is not read. -/
inductive Error where
  /-- The file is not in UTF-8. -/
  | encoding (fault : Text.Utf8.Fault)
  /-- The file is not YAML. -/
  | yaml (error : Yaml.Error)
  /-- The document of the named file is no mapping. -/
  | notMapping (path : String)

/-- The text of an error. -/
def Error.message : Error → String
  | .encoding fault => fault.message
  | .yaml error => error.message
  | .notMapping path => "Config file " ++ path ++ " must contain a mapping"

/-- The settings that a mapping holds under text keys. -/
def namedSettings (entries : List (Setting × Setting)) : Settings :=
  entries.filterMap fun
    | (.text name, value) => some (name, value)
    | _ => none

/-- **The settings of a configuration text.** -/
def ofText (path text : String) : Except Error Settings :=
  match Yaml.read (String.ofList (Text.unified text.toList)) with
  | .error e => .error (.yaml e)
  | .ok .null => .ok []
  | .ok (.mapping entries) => .ok (namedSettings entries)
  | .ok _ => .error (.notMapping path)

/-- **The settings of a configuration file.** -/
def ofBytes (path : String) (bytes : List UInt8) : Except Error Settings :=
  match Text.Utf8.decode bytes with
  | .error fault => .error (.encoding fault)
  | .ok text => ofText path text

end TypedTraffic.Configuration
