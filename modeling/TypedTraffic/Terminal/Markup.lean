import TypedTraffic.Terminal.Cells
import TypedTraffic.Text.Half
import TypedTraffic.Text.Split

/-!
# Marked-up text

Text for the terminal is marked up: a name in brackets switches a style
on, and off again behind a slash. Colours are not part of what is
printed here, so of a style nothing is seen (`visible`). A backslash in
front of a bracket makes it an ordinary character, and text that comes
from elsewhere is escaped in that way (`escape`).

A bracket that could not begin a style needs no backslash, but loses one
that is there. A single backslash at the end of a text is doubled, since
a style may be switched off behind it.
-/

namespace TypedTraffic.Terminal

/-- Whether a style may start with a character. -/
def startsStyle (c : Char) : Bool := c.isLower || c == '#' || c == '/' || c == '@'

/-- Whether the brackets are closed before others are opened. -/
def closes : List Char → Bool
  | [] => false
  | c :: cs => c == ']' || (c != '[' && closes cs)

/-- Whether a style stands behind an opening bracket. -/
def isStyle : List Char → Bool
  | [] => false
  | c :: cs => startsStyle c && closes cs

/-- So many backslashes. -/
def backslashes (n : Nat) : List Char := List.replicate n '\\'

/-- What is seen from here on, behind a run of backslashes or inside a
style. -/
def visibleFrom : Bool → Nat → List Char → List Char
  | _, n, [] => backslashes n
  | true, _, c :: cs => visibleFrom (c != ']') 0 cs
  | false, n, c :: cs =>
    if c == '\\' then visibleFrom false (n + 1) cs
    else if c == '[' then
      if isStyle cs then
        if n % 2 == 0 then backslashes (n / 2) ++ visibleFrom true 0 cs
        else backslashes (n / 2) ++ '[' :: visibleFrom false 0 cs
      else backslashes (n - 1) ++ '[' :: visibleFrom false 0 cs
    else backslashes n ++ c :: visibleFrom false 0 cs

/-- **What is seen of a marked-up text.** -/
def visible (cs : List Char) : List Char := visibleFrom false 0 cs

/-- The escaped form from here on, behind a run of backslashes. -/
def escapeFrom : Nat → List Char → List Char
  | n, [] => backslashes (if n = 1 then 2 else n)
  | n, c :: cs =>
    if c == '\\' then escapeFrom (n + 1) cs
    else if c == '[' && isStyle cs then backslashes (2 * n + 1) ++ '[' :: escapeFrom 0 cs
    else backslashes n ++ c :: escapeFrom 0 cs

/-- **The escaped form of a text.** -/
def escape (cs : List Char) : List Char := escapeFrom 0 cs

/-- A text in a style. -/
def styled (style : String) (cs : List Char) : List Char :=
  '[' :: style.toList ++ ']' :: cs ++ '[' :: '/' :: style.toList ++ [']']

/-! ## Printing -/

/-- The characters that move the cursor of a terminal: they are not
printed. -/
def isCursorMove (c : Char) : Bool := [7, 8, 11, 12, 13].contains c.toNat

/-- The distance of tab stops. -/
def tabStop : Nat := 8

/-- A line from a cell on, with blanks up to the next tab stop in the
place of each tab. -/
def expandTabs : Nat → List Char → List Char
  | _, [] => []
  | cell, c :: cs =>
    if c == '\t' then
      let blanks := tabStop - cell % tabStop
      List.replicate blanks ' ' ++ expandTabs (cell + blanks) cs
    else c :: expandTabs (cell + cells c) cs

/-- The lines that are printed of a text without markup. -/
def printedLines (cs : List Char) : List (List Char) :=
  (Text.split '\n' (cs.filter fun c => !isCursorMove c)).map (expandTabs 0)

/-- **What is printed of a marked-up text**, with a line end. -/
def printed (cs : List Char) : String :=
  String.ofList (Text.join ['\n'] (printedLines (visible cs)) ++ ['\n'])

/-- The text of an error in what is to be printed: it is taken for a matter
of the terminal. -/
def faultMessage (fault : Text.EncodingFault) : String :=
  fault.message
    ++ "\n*** You may need to add PYTHONIOENCODING=utf-8 to your environment ***"

end TypedTraffic.Terminal
