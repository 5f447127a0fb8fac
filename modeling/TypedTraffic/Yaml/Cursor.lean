/-!
# Places in a YAML text

A cursor is the rest of a text together with where it stands: the line,
the column, and whether a key may start here. Structure in YAML hangs on
columns and lines, so every reader below moves a cursor.
-/

namespace TypedTraffic.Yaml

/-- Why a text is not read. -/
inductive Fault where
  /-- A character stands where it cannot stand. -/
  | unexpected
  /-- The text ends too early. -/
  | unfinished
  /-- A mapping entry lacks its colon, or one stands where none may. -/
  | misplacedKey
  /-- Lines do not stand at the columns their nesting asks for. -/
  | indentation
  /-- A name is used that was not introduced, or introduced twice. -/
  | reference
  /-- A directive or tag is not known. -/
  | unknownTag
  /-- There is more than one document. -/
  | severalDocuments
  deriving DecidableEq

/-- The words for what is wrong. -/
def Fault.text : Fault → String
  | .unexpected => "found a character that cannot stand here"
  | .unfinished => "found unexpected end of stream"
  | .misplacedKey => "mapping values are not allowed here"
  | .indentation => "expected <block end>"
  | .reference => "found undefined or duplicate anchor"
  | .unknownTag => "could not determine a constructor for the tag"
  | .severalDocuments => "expected a single document in the stream"

/-- **A place in a text.** -/
structure Cursor where
  /-- The text from here on. -/
  rest : List Char
  /-- The number of lines before this one. -/
  line : Nat
  /-- The number of characters before this one on its line. -/
  column : Nat
  /-- Whether a key may start here. -/
  fresh : Bool

/-- Line ends. -/
def isBreak (c : Char) : Bool :=
  c == '\n' || c == '\r' || c == '\x85' || c == '\u2028' || c == '\u2029'

/-- Characters that separate: spaces, tabs and line ends. -/
def isGap (c : Char) : Bool := c == ' ' || c == '\t' || isBreak c

namespace Cursor

/-- The start of a text. -/
def start (text : List Char) : Cursor := ⟨text, 0, 0, true⟩

/-- The next character. -/
def peek (c : Cursor) : Option Char := c.rest.head?

/-- The character at a distance. -/
def peekAt (c : Cursor) (n : Nat) : Option Char := c.rest[n]?

/-- Whether the text is at its end. -/
def atEnd (c : Cursor) : Bool := c.rest.isEmpty

/-- Whether a separating character or the end of the text is at a
distance. -/
def gapAt (c : Cursor) (n : Nat) : Bool :=
  match c.peekAt n with
  | none => true
  | some d => isGap d

/-- Whether the next character is a given one. -/
def at? (c : Cursor) (d : Char) : Bool := c.peek == some d

/-- The cursor behind the next character. -/
def next (c : Cursor) : Cursor :=
  match c.rest with
  | [] => c
  | d :: rest =>
    if isBreak d && !(d == '\r' && rest.head? == some '\n') then
      { c with rest := rest, line := c.line + 1, column := 0 }
    else if d == '\uFEFF' then { c with rest := rest }
    else { c with rest := rest, column := c.column + 1 }

/-- The cursor behind the next characters. -/
def forward : Nat → Cursor → Cursor
  | 0, c => c
  | n + 1, c => forward n c.next

/-- The characters up to the first that does not satisfy `p`, and the
cursor there. -/
def spanWhile (c : Cursor) (p : Char → Bool) : List Char × Cursor :=
  let taken := c.rest.takeWhile p
  (taken, forward taken.length c)

/-- The cursor behind the spaces here. -/
def skipSpaces (c : Cursor) : Cursor := (c.spanWhile (· == ' ')).2

/-- The line end here, as it counts in a text, and the cursor behind
it. -/
def lineBreak? (c : Cursor) : Option (List Char × Cursor) :=
  match c.rest with
  | '\r' :: '\n' :: _ => some (['\n'], forward 2 c)
  | d :: _ =>
    if d == '\u2028' || d == '\u2029' then some ([d], c.next)
    else if isBreak d then some (['\n'], c.next)
    else none
  | [] => none

/-- The cursor behind the comment here, if there is one. -/
def skipComment (c : Cursor) : Cursor :=
  if c.at? '#' then (c.spanWhile fun d => !isBreak d).2 else c

/-- The cursor at the next character that counts, looking at no more
lines than `fuel`: spaces, comments and line ends are passed over. In
block context a key may start behind a line end. -/
def skipLines (block : Bool) : Nat → Cursor → Cursor
  | 0, c => c
  | fuel + 1, c =>
    let c := c.skipSpaces.skipComment
    match c.lineBreak? with
    | some (_, next) =>
      skipLines block fuel { next with fresh := c.fresh || block }
    | none => c

/-- **The cursor at the next character that counts.** -/
def skip (block : Bool) (c : Cursor) : Cursor := skipLines block (c.rest.length + 1) c

/-- Whether three given characters and a gap start a line here. -/
def atMarker (mark : List Char) (c : Cursor) : Bool :=
  c.column == 0 && mark.isPrefixOf c.rest && c.gapAt 3

/-- Whether a document starts or ends here. -/
def atDocumentMarker (c : Cursor) : Bool :=
  c.atMarker ['-', '-', '-'] || c.atMarker ['.', '.', '.']

/-- Whether a given character stands here with a gap behind it. -/
def atIndicator (d : Char) (c : Cursor) : Bool := c.at? d && c.gapAt 1

end Cursor

/-- What was read, and the cursor behind it. -/
abbrev Read (α : Type) := Except Fault (α × Cursor)

end TypedTraffic.Yaml
