/-!
# Checking a document against a schema

A check of a value collects every complaint it has, each with the place
in the document it is about. Checks of the fields of a record are put
together so that all fields are checked, in the order in which the
schema lists them, whether or not an earlier one failed; a record is
there only if every one of its fields is (`Checked.pair`).
-/

namespace TypedTraffic.Schema

/-- What is wrong with a value. -/
inductive Complaint where
  /-- The value is no object that could be read as the named record. -/
  | notRecord (record : String)
  /-- The value is no list. -/
  | notList
  /-- The value is no string. -/
  | notText
  /-- The value is bytes that hold no text. -/
  | notUnicode
  /-- The field has no value and no default. -/
  | missing
  /-- The value is no whole number and nothing that stands for one. -/
  | notWhole
  /-- The string is no numeral of a whole number. -/
  | wholeNumeral
  /-- The number is too large to be read as a whole number. -/
  | wholeSize
  /-- The number has a fractional part. -/
  | fractional
  /-- The number is infinite or undefined. -/
  | notFinite
  /-- The value is no truth value and nothing that stands for one. -/
  | notTruth
  /-- The value is of a kind that may stand for a truth value, but does
  not. -/
  | truthWord
  /-- The value breaks a rule of its own. -/
  | rule (text : String)
  deriving DecidableEq

/-- The name of a kind of complaint. -/
def Complaint.code : Complaint → String
  | .notRecord _ => "model_type"
  | .notList => "list_type"
  | .notText => "string_type"
  | .notUnicode => "string_unicode"
  | .missing => "missing"
  | .notWhole => "int_type"
  | .wholeNumeral => "int_parsing"
  | .wholeSize => "int_parsing_size"
  | .fractional => "int_from_float"
  | .notFinite => "finite_number"
  | .notTruth => "bool_type"
  | .truthWord => "bool_parsing"
  | .rule _ => "value_error"

/-- The text of a complaint. -/
def Complaint.message : Complaint → String
  | .notRecord record => "Input should be a valid dictionary or instance of " ++ record
  | .notList => "Input should be a valid list"
  | .notText => "Input should be a valid string"
  | .notUnicode =>
    "Input should be a valid string, unable to parse raw data as a unicode string"
  | .missing => "Field required"
  | .notWhole => "Input should be a valid integer"
  | .wholeNumeral => "Input should be a valid integer, unable to parse string as an integer"
  | .wholeSize => "Unable to parse input string as an integer, exceeded maximum size"
  | .fractional => "Input should be a valid integer, got a number with a fractional part"
  | .notFinite => "Input should be a finite number"
  | .notTruth => "Input should be a valid boolean"
  | .truthWord => "Input should be a valid boolean, unable to interpret input"
  | .rule text => "Value error, " ++ text

/-- One step of the way to a place in a document. -/
inductive PathStep where
  /-- The value of a key. -/
  | key (name : String)
  /-- The item at an index. -/
  | index (i : Nat)
  deriving DecidableEq

/-- A complaint about the value at a place. -/
structure FieldError where
  /-- The way to the value, from the root on. -/
  place : List PathStep
  /-- What is wrong with it. -/
  complaint : Complaint
  deriving DecidableEq

/-- **The result of a check**: a value, or all complaints. -/
abbrev Checked (α : Type) := Except (List FieldError) α

namespace Checked

/-- A check that fails at the place it is asked about. -/
def refuse {α : Type} (complaint : Complaint) : Checked α := .error [⟨[], complaint⟩]

/-- A check of a part, its complaints placed in the whole. -/
def under {α : Type} (step : PathStep) : Checked α → Checked α
  | .ok x => .ok x
  | .error errors => .error (errors.map fun e => { e with place := step :: e.place })

/-- **Two checks as one**, with the complaints of both. -/
def pair {α β : Type} : Checked α → Checked β → Checked (α × β)
  | .ok x, .ok y => .ok (x, y)
  | .ok _, .error e => .error e
  | .error e, .ok _ => .error e
  | .error e, .error f => .error (e ++ f)

/-- The checks of the items of a list, from an index on. -/
def listFrom {α β : Type} (check : α → Checked β) : Nat → List α → Checked (List β)
  | _, [] => .ok []
  | i, x :: xs =>
    match pair (under (.index i) (check x)) (listFrom check (i + 1) xs) with
    | .ok (y, ys) => .ok (y :: ys)
    | .error errors => .error errors

/-- The checks of the items of a list. -/
def list {α β : Type} (check : α → Checked β) (xs : List α) : Checked (List β) :=
  listFrom check 0 xs

/-- Apply a function to what was checked. -/
def map {α β : Type} (f : α → β) : Checked α → Checked β
  | .ok x => .ok (f x)
  | .error errors => .error errors

end Checked

end TypedTraffic.Schema
