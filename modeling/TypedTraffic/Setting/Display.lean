import TypedTraffic.Number.Shortest
import TypedTraffic.Setting
import TypedTraffic.Text.Quoted

/-!
# Settings in messages

A message shows a value as it would be written in an expression, and
names its kind. A value that takes many bytes is shown by its ends.
-/

namespace TypedTraffic

/-- One byte between quotes. -/
def quotedByte (quote : Char) (b : UInt8) : List Char :=
  if b < 128 then Text.quotedChar quote (Char.ofNat b.toNat)
  else '\\' :: 'x' :: Text.hexPadded 2 b.toNat

/-- Bytes as a message shows them. -/
def quotedBytes (bytes : List UInt8) : String :=
  let quote := Text.quoteFor (bytes.map fun b => Char.ofNat b.toNat)
  String.ofList ('b' :: quote :: bytes.flatMap (quotedByte quote) ++ [quote])

/-- The distance from universal time as a message shows it. -/
def shownZone (offset : Int) : String :=
  if offset = 0 then "datetime.timezone.utc"
  else "datetime.timezone(" ++ Moment.distanceText offset ++ ")"

/-- Numbers between commas. -/
def shownNumbers (numbers : List Nat) : String := ", ".intercalate (numbers.map toString)

/-- A point in time as a message shows it: seconds and millionths are
left out where they are zero. -/
def Moment.shown (m : Moment) : String :=
  let clock :=
    if m.micro ≠ 0 then [m.hour, m.minute, m.second, m.micro]
    else if m.second ≠ 0 then [m.hour, m.minute, m.second]
    else [m.hour, m.minute]
  "datetime.datetime(" ++ shownNumbers ([m.year, m.month, m.day] ++ clock)
    ++ (m.offset.map fun offset => ", tzinfo=" ++ shownZone offset).getD "" ++ ")"

mutual

/-- **A value as a message shows it.** -/
def Setting.shown : Setting → String
  | .null => "None"
  | .truth b => if b then "True" else "False"
  | .whole n => toString n
  | .real x => x.text
  | .text s => Text.quoted s
  | .bytes data => quotedBytes data
  | .day y m d => "datetime.date(" ++ shownNumbers [y, m, d] ++ ")"
  | .moment m => m.shown
  | .list items => "[" ++ ", ".intercalate (Setting.shownItems items) ++ "]"
  | .pairs items => "[" ++ ", ".intercalate (Setting.shownPairs items) ++ "]"
  | .mapping entries => "\x7b" ++ ", ".intercalate (Setting.shownEntries entries) ++ "\x7d"
  | .set [] => "set()"
  | .set items => "\x7b" ++ ", ".intercalate (Setting.shownItems items) ++ "\x7d"
  termination_by structural value => value

/-- The items of a list as a message shows them. -/
def Setting.shownItems : List Setting → List String
  | [] => []
  | item :: items => item.shown :: Setting.shownItems items
  termination_by structural items => items

/-- Pairs as a message shows them. -/
def Setting.shownPairs : List (Setting × Setting) → List String
  | [] => []
  | (first, second) :: rest =>
    ("(" ++ first.shown ++ ", " ++ second.shown ++ ")") :: Setting.shownPairs rest
  termination_by structural items => items

/-- The entries of a mapping as a message shows them. -/
def Setting.shownEntries : List (Setting × Setting) → List String
  | [] => []
  | (key, value) :: entries => (key.shown ++ ": " ++ value.shown) :: Setting.shownEntries entries
  termination_by structural entries => entries

end

/-- **The name of the kind of a value.** -/
def Setting.kindName : Setting → String
  | .null => "NoneType"
  | .truth _ => "bool"
  | .whole _ => "int"
  | .real _ => "float"
  | .text _ => "str"
  | .bytes _ => "bytes"
  | .day _ _ _ => "date"
  | .moment _ => "datetime"
  | .list _ => "list"
  | .pairs _ => "list"
  | .mapping _ => "dict"
  | .set _ => "set"

/-- The longest start of a text that takes at most so many bytes. -/
def takeBytes : Nat → List Char → List Char
  | _, [] => []
  | room, c :: cs => if c.utf8Size ≤ room then c :: takeBytes (room - c.utf8Size) cs else []

/-- The most bytes of a value that are shown. -/
def shownBytes : Nat := 50

/-- **A text by its ends**, if it takes more than fifty bytes. -/
def abridged (s : String) : String :=
  if s.utf8ByteSize ≤ shownBytes then s
  else
    String.ofList
      (takeBytes 25 s.toList ++ ['.', '.', '.'] ++ (takeBytes 24 s.toList.reverse).reverse)

end TypedTraffic
