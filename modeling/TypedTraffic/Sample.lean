import TypedTraffic.Naming.Table
import TypedTraffic.Notice
import TypedTraffic.Shape.Layout

/-!
# The definition of one sample

A sample is a body text, or a JSON value. A form leads to an interface
with one field for each key, typed by its last value; a JSON object
leads to the interfaces its shape is laid out as; a text that is not
JSON is tried as a form. Everything else leads to an alias, and a notice
says why.

Field names come from a table that all samples of a run share. The keys
of a sample are named in the order in which its walk meets them, also
those of a sample that then turns out to be nested too deeply.
-/

namespace TypedTraffic

open Naming

/-- **A sample.** -/
inductive Payload where
  /-- A body text. -/
  | text (source : String)
  /-- A JSON value. -/
  | value (json : Json)

/-- **What a sample leads to**: its definition, the notice if there is
one, and the field names after it. -/
structure Inference where
  /-- The definition. -/
  definition : Definition
  /-- Why the definition is an alias, if it is. -/
  notice : Option Notice
  /-- The field names, those of this sample included. -/
  names : FieldNames

namespace Sample

/-- Whether a text is a whole number: digits, with a minus sign or
without. -/
def isWholeNumber (cs : List Char) : Bool :=
  let digits :=
    match cs with
    | '-' :: rest => rest
    | cs => cs
  !digits.isEmpty && digits.all Char.isDigit

/-- **The type of a form value.** -/
def formValueType (value : String) : TypeExpr :=
  if isWholeNumber value.toList then .number
  else if Text.lower value = "true" ∨ Text.lower value = "false" then .boolean
  else .string

/-- Fields by name with their types, from the pairs of a form. -/
def formFields : FieldNames → List (String × TypeExpr) → List Form.Pair →
    List (String × TypeExpr) × FieldNames
  | names, fields, [] => (fields, names)
  | names, fields, (key, value) :: pairs =>
    let (name, names) := names.nameField (codePoints key)
    formFields names (Ordered.put name (formValueType value) fields) pairs

/-- **The interface of a form**, with the field names after it. -/
def formInterface (mode : Form.Mode) (name source : String) (names : FieldNames) :
    Except Form.Error (Interface × FieldNames) :=
  match Form.pairs mode source with
  | .error e => .error e
  | .ok [] => .error .noFields
  | .ok pairs =>
    let (fields, names) := formFields names [] pairs
    .ok (⟨name, fields.map fun (field, type) => ⟨field, type, false⟩⟩, names)

/-- An alias for a sample of which nothing is known. -/
def unknown (name : String) (notice : Notice) (names : FieldNames) : Inference :=
  ⟨.alias name .any, some notice, names⟩

/-- The definition of a form sample. -/
def ofForm (name : String) (payload : Payload) (names : FieldNames) : Inference :=
  match payload with
  | .value _ => unknown name (.formNotText name) names
  | .text source =>
    match formInterface .lenient name source names with
    | .ok (interface, names) => ⟨.interfaces interface [], none, names⟩
    | .error e => ⟨.alias name .textRecord, some (.malformedForm name e), names⟩

/-- The definition of a JSON object. -/
def ofObject (name : String) (object : Object) (names : FieldNames) : Inference :=
  match Shape.fieldsOfSample object with
  | .error e => unknown name (.nestedTooDeeply name) (names.nameFields e.met)
  | .ok fields =>
    let names := names.nameFields (Shape.keysOfFields fields)
    ⟨(Layout.mk name names.fieldName).definition fields, none, names⟩

/-- The definition of a JSON value. -/
def ofJson (name : String) (json : Json) (names : FieldNames) : Inference :=
  match json with
  | .object object => ofObject name object names
  | _ => unknown name (.rootNotObject name) names

/-- The definition of a text that may be JSON or a form. -/
def ofText (name source : String) (names : FieldNames) : Inference :=
  match Json.parse source with
  | .ok json => ofJson name json names
  | .error e =>
    match formInterface .strict name source names with
    | .ok (interface, names) => ⟨.interfaces interface [], none, names⟩
    | .error _ => unknown name (.neitherFormat name e) names

/-- **The definition of a sample**, under a name and in the given field
names. -/
def infer (name : String) (payload : Payload) (mime : Option String) (names : FieldNames) :
    Inference :=
  if isFormMimeType mime then ofForm name payload names
  else
    match payload with
    | .text source => ofText name source names
    | .value json => ofJson name json names

end Sample

end TypedTraffic
