import TypedTraffic.Text.Numeral
import TypedTraffic.Yaml.Cursor

/-!
# Scalars of YAML

A scalar is written plain, between quotes, or as a block of lines. Line
ends inside plain and quoted scalars fold: one becomes a space, and of
several the first one is dropped. Block scalars keep their lines or fold
them, and their header says what becomes of the line ends behind the
last line.
-/

namespace TypedTraffic.Yaml

/-! ## Plain scalars -/

/-- Characters that start no plain scalar, unless the next character
joins them to one. -/
def isIndicator (c : Char) : Bool :=
  ['-', '?', ':', ',', '[', ']', '\x7b', '\x7d', '#', '&', '*', '!', '|', '>', '\x27', '\x22',
   '%', '@', '\x60'].contains c

/-- Whether a plain scalar starts here. -/
def startsPlain (flow : Bool) (c : Cursor) : Bool :=
  match c.peek with
  | none => false
  | some d =>
    if isGap d then false
    else if !isIndicator d then true
    else !c.gapAt 1 && (d == '-' || (!flow && (d == '?' || d == ':')))

/-- The brackets and commas that mean something between brackets. -/
def isFlowMark (c : Char) : Bool :=
  c == ',' || c == '[' || c == ']' || c == '\x7b' || c == '\x7d'

/-- The number of characters of a plain scalar up to the next gap. -/
def plainLength (flow : Bool) : List Char → Nat
  | [] => 0
  | c :: cs =>
    let ends :=
      isGap c
        || (c == ':' &&
            match cs with
            | [] => true
            | d :: _ => isGap d || (flow && isFlowMark d))
        || (flow && (isFlowMark c || c == '?'))
    if ends then 0 else plainLength flow cs + 1

/-- Blank lines and leading spaces behind a line end, with the line ends
that count; a document marker ends them. -/
def plainBreaks : Nat → Cursor → Option (List Char) × Cursor
  | 0, c => (some [], c)
  | fuel + 1, c =>
    if c.atDocumentMarker then (none, c)
    else if c.at? ' ' then plainBreaks fuel c.skipSpaces
    else
      match c.lineBreak? with
      | some (ends, next) =>
        match plainBreaks fuel next with
        | (some more, next) => (some (ends ++ more), next)
        | (none, next) => (none, next)
      | none => (some [], c)

/-- A line end between two parts of a scalar, given the line ends behind
it. -/
def folded (first more : List Char) : List Char :=
  if first != ['\n'] then first ++ more else if more.isEmpty then [' '] else more

/-- What stands between two parts of a plain scalar: spaces, or a folded
line end; nothing if the scalar ends here. -/
def plainGap (c : Cursor) : List Char × Cursor :=
  let (spaces, c) := c.spanWhile (· == ' ')
  match c.lineBreak? with
  | some (first, next) =>
    let next := { next with fresh := true }
    match plainBreaks (next.rest.length + 1) next with
    | (some more, next) => (folded first more, next)
    | (none, next) => ([], next)
  | none => (spaces, c)

/-- A plain scalar from here on, behind `gap`. In block context its
further lines stand at column `indent` or beyond. -/
def readPlainFrom (flow : Bool) (indent : Nat) : Nat → List Char → Cursor → List Char × Cursor
  | 0, _, c => ([], c)
  | fuel + 1, gap, c =>
    let length := plainLength flow c.rest
    if c.at? '#' || length == 0 then ([], c)
    else
      let part := c.rest.take length
      let c := { Cursor.forward length c with fresh := false }
      match plainGap c with
      | ([], c) => (gap ++ part, c)
      | (next, c) =>
        if c.at? '#' || (!flow && c.column < indent) then (gap ++ part, c)
        else
          let (more, c) := readPlainFrom flow indent fuel next c
          (gap ++ part ++ more, c)

/-- **A plain scalar.** -/
def readPlain (flow : Bool) (indent : Nat) (c : Cursor) : List Char × Cursor :=
  readPlainFrom flow indent (c.rest.length + 1) [] c

/-! ## Quoted scalars -/

/-- The character a single-letter escape stands for. -/
def escaped? (c : Char) : Option Char :=
  [('0', '\x00'), ('a', '\x07'), ('b', '\x08'), ('t', '\t'), ('\t', '\t'), ('n', '\n'),
   ('v', '\x0b'), ('f', '\x0c'), ('r', '\r'), ('e', '\x1b'), (' ', ' '), ('\x22', '\x22'),
   ('\\', '\\'), ('/', '/'), ('N', '\x85'), ('_', '\xa0'), ('L', '\u2028'),
   ('P', '\u2029')].lookup c

/-- The number of hexadecimal digits behind an escape of a code point. -/
def escapeWidth? (c : Char) : Option Nat := [('x', 2), ('u', 4), ('U', 8)].lookup c

/-- Blank lines inside quotes, with the line ends that count. -/
def quotedBreaks : Nat → Cursor → Read (List Char)
  | 0, c => .ok ([], c)
  | fuel + 1, c =>
    if c.atDocumentMarker then .error .unexpected
    else
      let c := (c.spanWhile fun d => d == ' ' || d == '\t').2
      match c.lineBreak? with
      | some (ends, next) =>
        match quotedBreaks fuel next with
        | .ok (more, next) => .ok (ends ++ more, next)
        | .error e => .error e
      | none => .ok ([], c)

/-- The escape behind a backslash. -/
def readEscape (c : Cursor) : Read (List Char) :=
  match c.peek with
  | none => .error .unfinished
  | some d =>
    match escaped? d with
    | some e => .ok ([e], c.next)
    | none =>
      match escapeWidth? d with
      | some width =>
        let digits := c.next.rest.take width
        let n := Text.numeral 16 digits
        if digits.length == width && digits.all Text.isHex && n.isValidChar then
          .ok ([Char.ofNat n], Cursor.forward (width + 1) c)
        else .error .unexpected
      | none =>
        match c.lineBreak? with
        | some (_, next) => quotedBreaks (next.rest.length + 1) next
        | none => .error .unexpected

/-- What a quoted scalar holds from here on, behind its opening quote. -/
def readQuotedFrom (quote : Char) : Nat → Cursor → Read (List Char)
  | 0, _ => .error .unfinished
  | fuel + 1, c =>
    let andThen (part : List Char) (c : Cursor) : Read (List Char) :=
      match readQuotedFrom quote fuel c with
      | .ok (more, c) => .ok (part ++ more, c)
      | .error e => .error e
    match c.peek with
    | none => .error .unfinished
    | some d =>
      if d == quote then
        if quote == '\x27' && c.peekAt 1 == some quote then andThen [quote] (Cursor.forward 2 c)
        else .ok ([], c.next)
      else if d == '\\' && quote == '\x22' then
        match readEscape c.next with
        | .ok (part, c) => andThen part c
        | .error e => .error e
      else if isGap d then
        let (spaces, c) := c.spanWhile fun d => d == ' ' || d == '\t'
        match c.lineBreak? with
        | some (first, next) =>
          match quotedBreaks (next.rest.length + 1) next with
          | .ok (more, next) => andThen (folded first more) next
          | .error e => .error e
        | none => andThen spaces c
      else andThen [d] c.next

/-- **A quoted scalar**, from its opening quote on. -/
def readQuoted (quote : Char) (c : Cursor) : Read (List Char) :=
  match readQuotedFrom quote (c.rest.length + 1) c.next with
  | .ok (chars, c) => .ok (chars, { c with fresh := false })
  | .error e => .error e

/-! ## Block scalars -/

/-- What becomes of the line ends behind the last line. -/
inductive Chomp where
  /-- The first one is kept. -/
  | clip
  /-- None is kept. -/
  | strip
  /-- All are kept. -/
  | keep
  deriving DecidableEq

/-- The header of a block scalar: the treatment of the last line ends and
the indentation, if they are given. -/
def readHeader : Nat → Option Chomp → Option Nat → Cursor → Read (Option Chomp × Option Nat)
  | 0, chomp, width, c => .ok ((chomp, width), c)
  | fuel + 1, chomp, width, c =>
    match c.peek with
    | some d =>
      if (d == '+' || d == '-') && chomp.isNone then
        readHeader fuel (some (if d == '+' then .keep else .strip)) width c.next
      else if d.isDigit && width.isNone then
        if d == '0' then .error .unexpected
        else readHeader fuel chomp (some (d.toNat - 48)) c.next
      else .ok ((chomp, width), c)
    | none => .ok ((chomp, width), c)

/-- The line ends of blank lines in front of the first line, and the
greatest column reached on them. -/
def leadingBreaks : Nat → Nat → Cursor → (List Char × Nat) × Cursor
  | 0, widest, c => (([], widest), c)
  | fuel + 1, widest, c =>
    let c := c.skipSpaces
    let widest := max widest c.column
    match c.lineBreak? with
    | some (ends, next) =>
      let ((more, widest), c) := leadingBreaks fuel widest next
      ((ends ++ more, widest), c)
    | none => (([], widest), c)

/-- The cursor behind the spaces here, up to a column. -/
def skipIndent (indent : Nat) : Nat → Cursor → Cursor
  | 0, c => c
  | fuel + 1, c =>
    if c.column < indent && c.at? ' ' then skipIndent indent fuel c.next else c

/-- The line ends of blank lines, and the cursor at the indentation of
the next line. -/
def blockBreaks (indent : Nat) : Nat → Cursor → List Char × Cursor
  | 0, c => ([], c)
  | fuel + 1, c =>
    let c := skipIndent indent indent c
    match c.lineBreak? with
    | some (ends, next) =>
      let (more, c) := blockBreaks indent fuel next
      (ends ++ more, c)
    | none => ([], c)

/-- The lines of a block scalar from here on, `breaks` standing in front
of them. -/
def blockLines (fold : Bool) (chomp : Chomp) (indent : Nat) :
    Nat → List Char → Cursor → List Char × Cursor
  | 0, _, c => ([], c)
  | fuel + 1, breaks, c =>
    let solid := !(c.at? ' ' || c.at? '\t')
    let (line, c) := c.spanWhile fun d => !isBreak d
    let (ends, c) := c.lineBreak?.getD ([], c)
    let (more, c) := blockBreaks indent (c.rest.length + 1) c
    if c.column == indent && !c.atEnd then
      let joint :=
        if fold && ends == ['\n'] && solid && !(c.at? ' ' || c.at? '\t') then
          if more.isEmpty then [' '] else []
        else ends
      let (tail, c) := blockLines fold chomp indent fuel more c
      (breaks ++ line ++ joint ++ tail, c)
    else
      let tail :=
        match chomp with
        | .strip => []
        | .clip => ends
        | .keep => ends ++ more
      (breaks ++ line ++ tail, c)

/-- **A block scalar**, from its indicator on, inside a block at column
`parent`. -/
def readBlockScalar (parent : Int) (fold : Bool) (c : Cursor) : Read (List Char) :=
  match readHeader 2 none none c.next with
  | .error e => .error e
  | .ok ((chomp, width), c) =>
    let behind := if c.at? ' ' then c.skipSpaces.skipComment else c
    match behind.lineBreak? with
    | none => if behind.atEnd then .ok ([], { behind with fresh := true }) else .error .unexpected
    | some (_, c) =>
      let least := (max 1 (parent + 1)).toNat
      let ((breaks, indent), c) :=
        match width with
        | none =>
          let ((breaks, widest), c) := leadingBreaks (c.rest.length + 1) 0 c
          ((breaks, max least widest), c)
        | some w =>
          let indent := least + w - 1
          let (breaks, c) := blockBreaks indent (c.rest.length + 1) c
          ((breaks, indent), c)
      let chomp := chomp.getD .clip
      let (chars, c) :=
        if c.column == indent && !c.atEnd then
          blockLines fold chomp indent (c.rest.length + 1) breaks c
        else (if chomp = .keep then breaks else [], c)
      .ok (chars, { c with fresh := true })

end TypedTraffic.Yaml
