import TypedTraffic.Text.Utf8
import TypedTraffic.Text.Split
import TypedTraffic.Text.Quoted

/-!
# URL-encoded forms

Form data and queries are fields with an ampersand between them; a field
is a key and a value with an equals sign between them. In both a plus
stands for a space and `%XX` for a byte of UTF-8. Strict reading asks
for an equals sign in every field; lenient reading passes over empty
fields and takes a bare key for a key with an empty value.
-/

namespace TypedTraffic.Form

open Text

/-- The bytes of ASCII characters, escapes resolved; a percent sign that
starts no escape stands for itself. -/
def escapedBytes : List Char → List UInt8
  | '%' :: a :: b :: cs =>
    match hexValue? a, hexValue? b with
    | some high, some low => UInt8.ofNat (high * 16 + low) :: escapedBytes cs
    | _, _ => UInt8.ofNat '%'.toNat :: escapedBytes (a :: b :: cs)
  | c :: cs => UInt8.ofNat c.toNat :: escapedBytes cs
  | [] => []

/-- Resolve the escapes of each run of ASCII characters; `run` is the
open run, last character first. -/
def unescapeRuns : List Char → List Char → List Char
  | run, [] => Utf8.decodeLossy (escapedBytes run.reverse)
  | run, c :: cs =>
    if c.toNat < 128 then unescapeRuns (c :: run) cs
    else Utf8.decodeLossy (escapedBytes run.reverse) ++ c :: unescapeRuns [] cs

/-- **A key or value without its encoding.** -/
def unescape (cs : List Char) : List Char :=
  unescapeRuns [] (replaceChar '+' [' '] cs)

/-- A field: a key and its value. -/
abbrev Pair := String × String

/-- How fields are read. -/
inductive Mode where
  /-- Every field has an equals sign. -/
  | strict
  /-- Empty fields are passed over, a bare key has an empty value. -/
  | lenient
  deriving DecidableEq

/-- Why form data is not read. -/
inductive Error where
  /-- A field has no equals sign. -/
  | badField (field : String)
  /-- There is no field at all. -/
  | noFields
  deriving DecidableEq

/-- The text of an error. -/
def Error.message : Error → String
  | .badField field => "bad query field: " ++ quoted field
  | .noFields => "no form fields"

/-- The field of one piece between ampersands, none for a piece that is
passed over. -/
def pair? (mode : Mode) (piece : List Char) : Except Error (Option Pair) :=
  match cut '=' piece with
  | (key, some value) =>
    .ok (some (String.ofList (unescape key), String.ofList (unescape value)))
  | (key, none) =>
    match mode with
    | .strict => .error (.badField (String.ofList piece))
    | .lenient =>
      if piece.isEmpty then .ok none else .ok (some (String.ofList (unescape key), ""))

/-- The fields of pieces, up to the first that is refused. -/
def pairsOf (mode : Mode) : List (List Char) → Except Error (List Pair)
  | [] => .ok []
  | piece :: pieces =>
    match pair? mode piece with
    | .error e => .error e
    | .ok none => pairsOf mode pieces
    | .ok (some pair) =>
      match pairsOf mode pieces with
      | .error e => .error e
      | .ok pairs => .ok (pair :: pairs)

/-- **The fields of a text.** Empty text has none. -/
def pairs (mode : Mode) (text : String) : Except Error (List Pair) :=
  if text.isEmpty then .ok [] else pairsOf mode (split '&' text.toList)

/-- The fields of a query, which is always read leniently. -/
def queryPairs (query : String) : List Pair :=
  match pairs .lenient query with
  | .ok pairs => pairs
  | .error _ => []

end TypedTraffic.Form
