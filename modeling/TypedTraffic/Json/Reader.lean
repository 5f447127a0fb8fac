import TypedTraffic.Json.Basic
import TypedTraffic.Text.Numeral
import TypedTraffic.Ordered

/-!
# Reading JSON text

The grammar is that of JSON with three words more (`NaN`, `Infinity`,
`-Infinity`). A fault is reported with its position, so every step below
works on the rest of the text: what is left when a fault is met tells
where it is (`Fault.offset`).

Two limits are part of the reader: whole numbers have at most 4300
digits, and lists and objects are nested at most `depthLimit` deep.
-/

namespace TypedTraffic.Json

open Text

/-- What is wrong at a position. -/
inductive FaultKind where
  /-- A value has to start here. -/
  | expectingValue
  /-- A key has to start here. -/
  | expectingKey
  /-- A colon has to stand here. -/
  | expectingColon
  /-- A comma or the end of the container has to stand here. -/
  | expectingComma
  /-- The document is over, but the text is not. -/
  | extraData
  /-- The string that starts here has no end. -/
  | unterminated
  /-- A control character stands in a string. -/
  | control
  /-- The escape is unknown. -/
  | badEscape
  /-- The escape has no four hexadecimal digits. -/
  | badUnicodeEscape
  /-- The text starts with a byte order mark. -/
  | byteOrderMark
  deriving DecidableEq

/-- The words for what is wrong. -/
def FaultKind.text : FaultKind → String
  | .expectingValue => "Expecting value"
  | .expectingKey => "Expecting property name enclosed in double quotes"
  | .expectingColon => "Expecting ':' delimiter"
  | .expectingComma => "Expecting ',' delimiter"
  | .extraData => "Extra data"
  | .unterminated => "Unterminated string starting at"
  | .control => "Invalid control character at"
  | .badEscape => "Invalid \\escape"
  | .badUnicodeEscape => "Invalid \\uXXXX escape"
  | .byteOrderMark => "Unexpected UTF-8 BOM (decode using utf-8-sig)"

/-- The two values that hold values. -/
inductive Container where
  /-- A list. -/
  | array
  /-- An object. -/
  | object
  deriving DecidableEq

/-- Why reading stops: a fault with the number of characters left at it,
or one of the two limits. -/
inductive Stop where
  /-- The text is not JSON. -/
  | fault (kind : FaultKind) (left : Nat)
  /-- A whole number has more digits than are read. -/
  | tooManyDigits (count : Nat)
  /-- Containers are nested more deeply than is read. -/
  | tooDeep (container : Container)
  deriving DecidableEq

/-- A step of the reader: what was read and the rest of the text. -/
abbrev Step (α : Type) := Except Stop (α × List Char)

/-- A fault at the start of `rest`. -/
def faultAt {α : Type} (kind : FaultKind) (rest : List Char) : Step α :=
  .error (.fault kind rest.length)

/-- The blanks of JSON: space, tab and the two line ends. -/
def isJsonBlank (c : Char) : Bool := c == ' ' || c == '\t' || c == '\n' || c == '\r'

/-- The text from its first character that is no blank. -/
def skipBlanks (cs : List Char) : List Char := cs.dropWhile isJsonBlank

/-! ## Strings -/

/-- The number of four hexadecimal digits. -/
def hexNumber? (a b c d : Char) : Option Nat := do
  let a ← hexValue? a
  let b ← hexValue? b
  let c ← hexValue? c
  let d ← hexValue? d
  return ((a * 16 + b) * 16 + c) * 16 + d

/-- The character behind a backslash, other than `u`. -/
def simpleEscape? (c : Char) : Option Char :=
  if c = '\x22' ∨ c = '\\' ∨ c = '/' then some c
  else if c = 'b' then some '\x08'
  else if c = 'f' then some '\x0c'
  else if c = 'n' then some '\n'
  else if c = 'r' then some '\r'
  else if c = 't' then some '\t'
  else none

/-- The halves of surrogate pairs joined to the characters they stand
for. -/
def joinPairs : List CodePoint → List CodePoint
  | [] => []
  | p :: ps =>
    match joinPairs ps with
    | q :: qs =>
      if p.isLeading && q.isTrailing then CodePoint.pair p q :: qs else p :: q :: qs
    | [] => [p]

/-- The rest of a string whose opening quote is at the start of
`opening`. The code points read so far come last first. -/
def readChars (opening : List Char) : List CodePoint → List Char → Step (List CodePoint)
  | done, '\x22' :: rest => .ok (joinPairs done.reverse, rest)
  | done, '\\' :: 'u' :: a :: b :: c :: d :: e :: rest =>
    match hexNumber? a b c d with
    | some n => readChars opening (CodePoint.ofNat n :: done) (e :: rest)
    | none => faultAt .badUnicodeEscape ('u' :: a :: b :: c :: d :: e :: rest)
  | _, '\\' :: 'u' :: rest => faultAt .badUnicodeEscape ('u' :: rest)
  | done, '\\' :: c :: rest =>
    match simpleEscape? c with
    | some e => readChars opening (CodePoint.ofChar e :: done) rest
    | none => faultAt .badEscape ('\\' :: c :: rest)
  | _, ['\\'] => faultAt .unterminated opening
  | done, c :: rest =>
    if c.toNat ≤ 0x1F then faultAt .control (c :: rest)
    else readChars opening (CodePoint.ofChar c :: done) rest
  | _, [] => faultAt .unterminated opening

/-- A string, from the character behind its opening quote. -/
def readString (rest : List Char) : Step (List CodePoint) :=
  readChars ('\x22' :: rest) [] rest

/-! ## Numbers and words -/

/-- The longest run of decimal digits at the start, and the rest. -/
def spanDigits (cs : List Char) : List Char × List Char := cs.span Char.isDigit

/-- The digits behind a point, none if no digit follows the point. -/
def readFraction (cs : List Char) : List Char × List Char :=
  match cs with
  | '.' :: rest =>
    match spanDigits rest with
    | ([], _) => ([], cs)
    | (digits, rest) => (digits, rest)
  | _ => ([], cs)

/-- The exponent, if one with a digit follows. -/
def readExponent (cs : List Char) : Option Int × List Char :=
  match cs with
  | e :: rest =>
    if e = 'e' ∨ e = 'E' then
      let (negative, rest) : Bool × List Char :=
        match rest with
        | '-' :: rest => (true, rest)
        | '+' :: rest => (false, rest)
        | rest => (false, rest)
      match spanDigits rest with
      | ([], _) => (none, cs)
      | (digits, rest) =>
        let n : Int := numeral 10 digits
        (some (if negative then -n else n), rest)
    else (none, cs)
  | [] => (none, cs)

/-- The digits before the point: a zero alone, or digits that do not
start with one. -/
def readWhole : List Char → Option (List Char × List Char)
  | '0' :: rest => some (['0'], rest)
  | c :: rest => if c.isDigit then some (spanDigits (c :: rest)) else none
  | [] => none

/-- The most digits a whole number may have. -/
def digitLimit : Nat := 4300

/-- A number. -/
def readNumber (cs : List Char) : Step Json :=
  let (negative, digitsOn) : Bool × List Char :=
    match cs with
    | '-' :: rest => (true, rest)
    | rest => (false, rest)
  match readWhole digitsOn with
  | none => faultAt .expectingValue cs
  | some (whole, rest) =>
    let (fraction, rest) := readFraction rest
    let (exponent?, rest) := readExponent rest
    if fraction.isEmpty && exponent?.isNone then
      if digitLimit < whole.length then .error (.tooManyDigits whole.length)
      else
        let n : Int := numeral 10 whole
        .ok (.number (.whole (if negative then -n else n)), rest)
    else
      let scale : Int := exponent?.getD 0 - fraction.length
      .ok (.number (.decimal ⟨negative, numeral 10 (whole ++ fraction), scale⟩), rest)

/-- The words of JSON with the values they stand for. -/
def valueWords : List (String × Json) :=
  [("null", .null), ("true", .bool true), ("false", .bool false),
   ("NaN", .number .undefined), ("Infinity", .number (.infinity false)),
   ("-Infinity", .number (.infinity true))]

/-- A word the text starts with, and the rest. -/
def readWord? (cs : List Char) : List (String × Json) → Option (Json × List Char)
  | [] => none
  | (word, value) :: words =>
    if word.toList.isPrefixOf cs then some (value, cs.drop word.length)
    else readWord? cs words

/-! ## Values -/

/-- The items of a list, from the first one on. Each round reads an item,
so as many rounds as there are characters are enough. -/
def readItems (read : List Char → Step Json) : Nat → List Json → List Char → Step Json
  | 0, _, cs => faultAt .expectingValue cs
  | rounds + 1, done, cs =>
    match read cs with
    | .error stop => .error stop
    | .ok (item, rest) =>
      match skipBlanks rest with
      | ']' :: rest => .ok (.array (item :: done).reverse, rest)
      | ',' :: rest => readItems read rounds (item :: done) (skipBlanks rest)
      | rest => faultAt .expectingComma rest

/-- The members of an object, from the first key on. -/
def readMembers (read : List Char → Step Json) :
    Nat → List (List CodePoint × Json) → List Char → Step Json
  | 0, _, cs => faultAt .expectingKey cs
  | rounds + 1, done, cs =>
    match cs with
    | '\x22' :: rest =>
      match readString rest with
      | .error stop => .error stop
      | .ok (key, rest) =>
        match skipBlanks rest with
        | ':' :: rest =>
          match read (skipBlanks rest) with
          | .error stop => .error stop
          | .ok (value, rest) =>
            match skipBlanks rest with
            | '\x7d' :: rest => .ok (.object (Ordered.put key value done), rest)
            | ',' :: rest => readMembers read rounds (Ordered.put key value done) (skipBlanks rest)
            | rest => faultAt .expectingComma rest
        | rest => faultAt .expectingColon rest
    | cs => faultAt .expectingKey cs

/-- A value whose containers are read by `nested`. -/
def readBy (nested : Container → List Char → Step Json) (cs : List Char) : Step Json :=
  match cs with
  | '\x22' :: rest =>
    match readString rest with
    | .error stop => .error stop
    | .ok (s, rest) => .ok (.string s, rest)
  | '[' :: rest => nested .array (skipBlanks rest)
  | '\x7b' :: rest => nested .object (skipBlanks rest)
  | cs =>
    match readWord? cs valueWords with
    | some (value, rest) => .ok (value, rest)
    | none => readNumber cs

/-- **A value**, with containers nested at most `depth` deep. -/
def readValue (rounds : Nat) : Nat → List Char → Step Json
  | 0 => readBy fun container _ => .error (.tooDeep container)
  | depth + 1 => readBy fun container cs =>
    match container, cs with
    | .array, ']' :: rest => .ok (.array [], rest)
    | .array, cs => readItems (readValue rounds depth) rounds [] cs
    | .object, '\x7d' :: rest => .ok (.object [], rest)
    | .object, cs => readMembers (readValue rounds depth) rounds [] cs

/-- How deep containers may be nested. -/
def depthLimit : Nat := 990

/-- A document: one value with blanks around it. -/
def readDocument (cs : List Char) : Except Stop Json :=
  match cs with
  | '\uFEFF' :: _ => .error (.fault .byteOrderMark cs.length)
  | cs =>
    match readValue cs.length depthLimit (skipBlanks cs) with
    | .error stop => .error stop
    | .ok (value, rest) =>
      match skipBlanks rest with
      | [] => .ok value
      | rest => .error (.fault .extraData rest.length)

/-! ## Errors -/

/-- **Why a text is not read.** -/
inductive Error where
  /-- It is not JSON: what is wrong, and the line, column and offset of
  the place. -/
  | malformed (kind : FaultKind) (line column offset : Nat)
  /-- A whole number has more digits than are read. -/
  | tooManyDigits (count : Nat)
  /-- Containers are nested more deeply than is read. -/
  | tooDeep (container : Container)
  deriving DecidableEq

/-- The text of an error. -/
def Error.message : Error → String
  | .malformed kind line column offset =>
    kind.text ++ ": line " ++ toString line ++ " column " ++ toString column
      ++ " (char " ++ toString offset ++ ")"
  | .tooManyDigits count =>
    "Exceeds the limit (" ++ toString digitLimit
      ++ " digits) for integer string conversion: value has " ++ toString count
      ++ " digits; use sys.set_int_max_str_digits() to increase the limit"
  | .tooDeep .array =>
    "maximum recursion depth exceeded while decoding a JSON array from a unicode string"
  | .tooDeep .object =>
    "maximum recursion depth exceeded while decoding a JSON object from a unicode string"

/-- Line and column behind the given characters, both counted from 1. -/
def position (before : List Char) : Nat × Nat :=
  before.foldl (fun p c => if c = '\n' then (p.1 + 1, 1) else (p.1, p.2 + 1)) (1, 1)

/-- The error of a stop in a text. -/
def Stop.toError (text : List Char) : Stop → Error
  | .fault kind left =>
    let before := text.take (text.length - left)
    .malformed kind (position before).1 (position before).2 before.length
  | .tooManyDigits count => .tooManyDigits count
  | .tooDeep container => .tooDeep container

/-- **Read a JSON document.** -/
def parse (text : String) : Except Error Json :=
  match readDocument text.toList with
  | .ok value => .ok value
  | .error stop => .error (stop.toError text.toList)

end TypedTraffic.Json
