import TypedTraffic.Schema.Scalar
import TypedTraffic.Setting
import TypedTraffic.Text.Quoted

/-!
# Options of a run

A run is governed by three options: whether definitions of one shape are
shared, what is put in front of every type name, and whether the outline
of a capture is left unchecked. They are read from settings by name; a
setting that is not there has its default, one that is no option is
ignored.
-/

namespace TypedTraffic

open Schema

/-- **The options of a run.** -/
structure Options where
  /-- Whether definitions of one shape are shared. -/
  mergeTypes : Bool
  /-- What is put in front of every type name. -/
  typePrefix : String
  /-- Whether the outline of the capture is left unchecked. -/
  skipValidation : Bool
  deriving DecidableEq

namespace Options

/-- The options when nothing is set. -/
def default : Options := ⟨true, "", false⟩

/-- Whether a text is empty or an identifier. -/
def isNamePrefix (cs : List Char) : Bool :=
  match cs with
  | [] => true
  | c :: rest => (c.isAlpha || c == '_') && rest.all Text.isNameChar

/-- **Whether a text may stand in front of type names.** One line end
behind it is not looked at. -/
def acceptsPrefix (s : String) : Bool :=
  isNamePrefix s.toList
    || (s.toList.getLast? == some '\n' && isNamePrefix s.toList.dropLast)

/-- A setting as a truth value. -/
def truth : Setting → Checked Bool
  | .truth b => .ok b
  | .whole n => truthOfWhole n
  | .real x => truthOfBinary x
  | .text s => truthOfText s
  | .bytes bs => truthOfBytes bs
  | _ => Checked.refuse .notTruth
where
  /-- Bytes are looked at as the text they encode. -/
  truthOfBytes (bs : List UInt8) : Checked Bool :=
    match Text.Utf8.decode bs with
    | .ok s => truthOfText s
    | .error _ => Checked.refuse .truthWord

/-- A setting as what is put in front of type names. -/
def namePrefix : Setting → Checked String
  | .text s => prefixOfText s
  | .bytes bs => prefixOfBytes bs
  | _ => Checked.refuse .notText
where
  /-- A text is checked. -/
  prefixOfText (s : String) : Checked String :=
    if acceptsPrefix s then .ok s
    else Checked.refuse (.rule
      ("type_prefix must be a valid identifier prefix, got " ++ Text.quoted s))
  /-- Bytes are checked as the text they encode. -/
  prefixOfBytes (bs : List UInt8) : Checked String :=
    match Text.Utf8.decode bs with
    | .ok s => prefixOfText s
    | .error _ => Checked.refuse .notUnicode

/-- A setting by name, or a default. -/
def setting {α : Type} (settings : Settings) (name : String) (default : α)
    (read : Setting → Checked α) : Checked α :=
  match settings.get? name with
  | some value => (read value).under (.key name)
  | none => .ok default

/-- **The options that settings amount to.** -/
def ofSettings (settings : Settings) : Checked Options :=
  ((setting settings "merge_types" true truth).pair
    ((setting settings "type_prefix" "" namePrefix).pair
      (setting settings "skip_validation" false truth))).map
    fun (mergeTypes, (typePrefix, skipValidation)) => ⟨mergeTypes, typePrefix, skipValidation⟩

end Options

end TypedTraffic
