import TypedTraffic.Text.Class
import TypedTraffic.Text.Table.Width

/-!
# Cells of a terminal

A terminal draws a character over one cell or two; control characters
and marks that join the character in front of them take none.
-/

namespace TypedTraffic.Terminal

open Text

/-- Whether a character is a control character. -/
def isControl (c : Char) : Bool := c.toNat < 32 || (127 ≤ c.toNat && c.toNat < 160)

/-- **The number of cells of a character.** -/
def cells (c : Char) : Nat :=
  if isControl c then 0
  else if c.toNat < 128 then 1
  else if inClass Table.wideChanges c then 2
  else if inClass Table.flatChanges c then 0
  else 1

/-- **The number of cells of a text.** -/
def width : List Char → Nat
  | [] => 0
  | c :: cs => cells c + width cs

/-- The text with blanks behind it, up to a number of cells. -/
def padEnd (room : Nat) (cs : List Char) : List Char :=
  cs ++ List.replicate (room - width cs) ' '

/-- The text with blanks in front of it, up to a number of cells. -/
def padStart (room : Nat) (cs : List Char) : List Char :=
  List.replicate (room - width cs) ' ' ++ cs

/-- The text in the middle of a number of cells, rather left of it. -/
def center (room : Nat) (cs : List Char) : List Char :=
  padEnd room (List.replicate ((room - width cs) / 2) ' ' ++ cs)

end TypedTraffic.Terminal
