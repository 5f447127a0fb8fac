import TypedTraffic.Text.CodePoint
import TypedTraffic.Text.Class
import TypedTraffic.Text.Split

/-!
# Names of the generated program

Source names – keys of JSON objects, form fields, query parameters, path
segments, methods – are arbitrary; names of the generated program are
made of ASCII letters, digits and underscores. Three ways lead from the
first to the second:

* `sanitized` keeps every character that may stand in a name and writes
  an underscore for each of the others;
* `joinedWords` joins the alphanumeric words with single underscores;
* `titleWords` joins them with each word capitalised.

Each has a name to fall back on when nothing is left.
-/

namespace TypedTraffic.Naming

open Text

/-- A name of the generated program: ASCII letters, digits and
underscores, not starting with a digit. -/
def isIdentifier (s : String) : Bool :=
  match s.toList with
  | [] => false
  | c :: cs => !c.isDigit && (c :: cs).all isNameChar

/-- A name as it arrives, lone surrogates included. -/
abbrev SourceName := List CodePoint

/-- The character that stands for a code point in a name. -/
def nameChar (p : CodePoint) : Char :=
  if isNameChar p.toChar then p.toChar else '_'

/-- **A source name made a valid identifier**: characters that cannot
stand in a name become underscores, and a leading digit gets an
underscore in front. -/
def sanitized (fallback : String) (source : SourceName) : String :=
  match source.map nameChar with
  | [] => fallback
  | c :: cs => String.ofList (if c.isDigit then '_' :: c :: cs else c :: cs)

/-- The maximal runs of ASCII letters and digits. -/
def words (cs : List Char) : List (List Char) :=
  (splitWhere (fun c => !isAlphanumeric c) cs).filter (!·.isEmpty)

/-- A word with its first letter in upper case and the others in lower
case. -/
def capitalized : List Char → List Char
  | [] => []
  | c :: cs => c.toUpper :: cs.map Char.toLower

/-- **The words of a text joined by underscores.** -/
def joinedWords (fallback : String) (s : String) : String :=
  match words s.toList with
  | [] => fallback
  | ws => String.ofList (join ['_'] ws)

/-- **The words of a text, each capitalised, as one name**; a name that
would start with a digit gets a `T` in front. -/
def titleWords (fallback : String) (s : String) : String :=
  match (words s.toList).flatMap capitalized with
  | [] => fallback
  | c :: cs => String.ofList (if c.isDigit then 'T' :: c :: cs else c :: cs)

/-- A source name without the one tracking mark it may start with. -/
def withoutMark (source : SourceName) : SourceName :=
  let marked (mark : String) : Bool := (codePoints mark).isPrefixOf source
  if marked "ep." then source.drop 3
  else if marked "epn." then source.drop 4
  else if marked "_" then source.drop 1
  else source

/-- The name a field of the given source name asks for. -/
def fieldBase (source : SourceName) : String := sanitized "field" (withoutMark source)

end TypedTraffic.Naming
