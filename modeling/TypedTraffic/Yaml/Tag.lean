import TypedTraffic.Text.Utf8
import TypedTraffic.Yaml.Cursor
import TypedTraffic.Yaml.Number
import TypedTraffic.Yaml.Time

/-!
# Tags of YAML

A tag says what kind of value a node has. A node may name its tag, in
full or with a handle in place of the part that many tags share; a plain
scalar that does not is of the kind it looks like (`Tag.ofPlain`).
-/

namespace TypedTraffic.Yaml

open Text

/-- **The kinds of values.** -/
inductive Tag where
  /-- No value. -/
  | null
  /-- A truth value. -/
  | truth
  /-- A whole number. -/
  | whole
  /-- A number with a point. -/
  | real
  /-- A text. -/
  | text
  /-- Bytes in base 64. -/
  | bytes
  /-- A day or a point in time. -/
  | time
  /-- A list. -/
  | list
  /-- A mapping. -/
  | mapping
  /-- A set. -/
  | set
  /-- A list of pairs. -/
  | pairs
  /-- A mapping whose order counts. -/
  | ordered
  /-- The key under which mappings are merged into another. -/
  | merge
  /-- The key of a default value. -/
  | defaultValue
  deriving DecidableEq

/-- What the names of all these tags start with. -/
def standardStart : String := "tag:yaml.org,2002:"

/-- The names of the tags behind the part they share. -/
def tagNames : List (String × Tag) :=
  [("null", .null), ("bool", .truth), ("int", .whole), ("float", .real), ("str", .text),
   ("binary", .bytes), ("timestamp", .time), ("seq", .list), ("map", .mapping), ("set", .set),
   ("pairs", .pairs), ("omap", .ordered), ("merge", .merge), ("value", .defaultValue)]

/-- **The tag of a full name.** -/
def Tag.ofName? (name : String) : Option Tag :=
  (tagNames.find? fun entry => standardStart ++ entry.1 == name).map (·.2)

/-- The plain scalars that stand for no value. -/
def nullWords : List String := ["", "~", "null", "Null", "NULL"]

/-- The plain scalars that stand for truth values. -/
def truthWords : List (String × Bool) :=
  [("yes", true), ("Yes", true), ("YES", true), ("no", false), ("No", false), ("NO", false),
   ("true", true), ("True", true), ("TRUE", true), ("false", false), ("False", false),
   ("FALSE", false), ("on", true), ("On", true), ("ON", true), ("off", false), ("Off", false),
   ("OFF", false)]

/-- **The kind of value a plain scalar looks like.** -/
def Tag.ofPlain (cs : List Char) : Tag :=
  let word := String.ofList cs
  if nullWords.contains word then .null
  else if (truthWords.lookup word).isSome then .truth
  else if isReal cs then .real
  else if isWhole cs then .whole
  else if isTime cs then .time
  else if word == "<<" then .merge
  else if word == "=" then .defaultValue
  else .text

/-! ## Written tags -/

/-- A tag as it is written: a handle, unless the tag is written in full,
and the rest. -/
structure WrittenTag where
  /-- The handle, with its exclamation marks. -/
  handle : Option String
  /-- The rest. -/
  rest : String
  deriving DecidableEq

/-- What the handles stand for. -/
abbrev Handles := List (String × String)

/-- The handles of a document that introduces none. -/
def standardHandles : Handles := [("!", "!"), ("!!", standardStart)]

/-- The full name of a written tag. -/
def WrittenTag.name (handles : Handles) (tag : WrittenTag) : Except Fault String :=
  match tag.handle with
  | none => .ok tag.rest
  | some handle =>
    match handles.lookup handle with
    | some start => .ok (start ++ tag.rest)
    | none => .error .unknownTag

/-- The characters of names. -/
def isTagWord (c : Char) : Bool := c.isAlpha || c.isDigit || c == '-' || c == '_'

/-- The characters of a tag behind its handle. -/
def isTagChar (c : Char) : Bool :=
  isTagWord c
    || [';', '/', '?', ':', '@', '&', '=', '+', '$', ',', '.', '!', '~', '*', '\x27', '(', ')',
        '[', ']'].contains c

/-- The bytes of the percent escapes at the start. -/
def escapedBytes : List Char → Option (List UInt8)
  | '%' :: a :: b :: rest =>
    if isHex a && isHex b then
      (escapedBytes rest).map (UInt8.ofNat (numeral 16 [a, b]) :: ·)
    else none
  | '%' :: _ => none
  | _ => some []

/-- The part of a tag behind its handle. -/
def readTagRest : Nat → Cursor → Read (List Char)
  | 0, c => .ok ([], c)
  | fuel + 1, c =>
    let andThen (part : List Char) (c : Cursor) : Read (List Char) :=
      match readTagRest fuel c with
      | .ok (more, c) => .ok (part ++ more, c)
      | .error e => .error e
    match c.peek with
    | none => .ok ([], c)
    | some d =>
      if d == '%' then
        match (escapedBytes c.rest).map fun bytes => (bytes.length, Utf8.decode bytes) with
        | some (count, .ok s) => andThen s.toList (Cursor.forward (3 * count) c)
        | _ => .error .unexpected
      else if isTagChar d then andThen [d] c.next
      else .ok ([], c)

/-- The part of a tag behind its handle, which is not empty. -/
def readSomeTagRest (c : Cursor) : Read String :=
  match readTagRest (c.rest.length + 1) c with
  | .ok ([], _) => .error .unexpected
  | .ok (rest, c) => .ok (String.ofList rest, c)
  | .error e => .error e

/-- Whether a space, a line end or the end of the text is here. -/
def isAtSpace (c : Cursor) : Bool := c.gapAt 0 && !c.at? '\t'

/-- A handle: exclamation marks around a name. -/
def readHandle (c : Cursor) : Read String :=
  let (name, c) := c.next.spanWhile isTagWord
  if c.at? '!' then .ok ("!" ++ String.ofList name ++ "!", c.next) else .error .unexpected

/-- **A tag**, from its exclamation mark on. -/
def readTag (c : Cursor) : Read WrittenTag :=
  let finish (handle : Option String) (rest : String) (c : Cursor) : Read WrittenTag :=
    if isAtSpace c then .ok (⟨handle, rest⟩, { c with fresh := false }) else .error .unexpected
  if c.peekAt 1 == some '<' then
    match readSomeTagRest (Cursor.forward 2 c) with
    | .ok (rest, c) => if c.at? '>' then finish none rest c.next else .error .unexpected
    | .error e => .error e
  else if c.gapAt 1 then finish none "!" c.next
  else
    let ahead := (c.rest.drop 1).takeWhile fun d => !(d == ' ' || isBreak d)
    let handle : Read String := if ahead.contains '!' then readHandle c else .ok ("!", c.next)
    match handle with
    | .ok (handle, c) =>
      match readSomeTagRest c with
      | .ok (rest, c) => finish (some handle) rest c
      | .error e => .error e
    | .error e => .error e

end TypedTraffic.Yaml
