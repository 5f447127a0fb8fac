import TypedTraffic.Json.Basic
import TypedTraffic.Moment
import TypedTraffic.Number.Binary64
import TypedTraffic.Ordered
import TypedTraffic.Text.Utf8

/-!
# Settings

The values that may be given for an option, wherever they are given: in
a configuration document, in the environment or on the command line.
-/

namespace TypedTraffic

/-- **A value that is set.** -/
inductive Setting where
  /-- No value. -/
  | null
  /-- A truth value. -/
  | truth (value : Bool)
  /-- A whole number. -/
  | whole (value : Int)
  /-- A number with a fractional part or an exponent. -/
  | real (value : Binary64)
  /-- A text. -/
  | text (value : String)
  /-- Bytes. -/
  | bytes (value : List UInt8)
  /-- A day. -/
  | day (year month day : Nat)
  /-- A point in time. -/
  | moment (value : Moment)
  /-- A list. -/
  | list (items : List Setting)
  /-- A list of pairs. -/
  | pairs (items : List (Setting × Setting))
  /-- Values by key. -/
  | mapping (entries : List (Setting × Setting))
  /-- A set of values. -/
  | set (items : List Setting)

mutual

/-- **A JSON value as a setting.** -/
def Setting.ofJson : Json → Setting
  | .null => .null
  | .bool b => .truth b
  | .number (.whole n) => .whole n
  | .number (.decimal d) => .real (Binary64.ofDecimal d)
  | .number (.infinity negative) => .real (.infinite negative)
  | .number .undefined => .real .undefined
  | .string points => .text (textOf points)
  | .array items => .list (Setting.ofItems items)
  | .object members => .mapping (Setting.ofMembers members)
  termination_by structural value => value

/-- The items of a list as settings. -/
def Setting.ofItems : List Json → List Setting
  | [] => []
  | item :: items => Setting.ofJson item :: Setting.ofItems items
  termination_by structural items => items

/-- The members of an object as settings by key. -/
def Setting.ofMembers : List (List CodePoint × Json) → List (Setting × Setting)
  | [] => []
  | (key, value) :: members =>
    (.text (textOf key), Setting.ofJson value) :: Setting.ofMembers members
  termination_by structural members => members

end

/-- Settings by name, in the order in which the names were first set. -/
abbrev Settings := List (String × Setting)

/-- The value that is set under a name. -/
def Settings.get? (settings : Settings) (name : String) : Option Setting :=
  settings.lookup name

/-- Whether there is a value. -/
def Setting.isGiven : Setting → Bool
  | .null => false
  | _ => true

/-- **Settings with others put over them.** Of the others, those without
a value leave what is set as it is. -/
def Settings.override (settings others : Settings) : Settings :=
  (others.filter fun other => other.2.isGiven).foldl
    (fun settings (name, value) => Ordered.put name value settings) settings

end TypedTraffic
