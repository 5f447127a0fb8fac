import TypedTraffic.Yaml.Node
import TypedTraffic.Yaml.Scalar

/-!
# Reading a YAML document

Outside brackets, nesting is a matter of columns: the items of a list
and the entries of a mapping start at one column, and what belongs to an
item or entry stands further right. The items of a list that is the
value of a key may stand at the column of the key. Between brackets,
columns mean nothing.

A key stands on one line with its colon and is not much longer than a
thousand characters, unless a question mark announces it.

All readers below look at no more nodes than `fuel`; the fuel is the
length of the text, of which every node takes a part.
-/

namespace TypedTraffic.Yaml

/-! ## Properties -/

/-- A name behind its indicator. -/
def readName (c : Cursor) : Read (List Char) :=
  let (name, c) := c.next.spanWhile isTagWord
  let closes := ['?', ':', ',', ']', '\x7d', '%', '@', '\x60']
  if !name.isEmpty && (c.gapAt 0 || c.peek.any closes.contains) then
    .ok (name, { c with fresh := false })
  else .error .unexpected

/-- Whether a property that is not given yet starts here. -/
def startsProperty (properties : Properties) (c : Cursor) : Bool :=
  (c.at? '&' && properties.anchor.isNone) || (c.at? '!' && properties.tag.isNone)

/-- The properties with the one that starts here. -/
def readProperty (properties : Properties) (c : Cursor) : Read Properties :=
  if c.at? '&' then
    match readName c with
    | .ok (name, c) => .ok ({ properties with anchor := some name }, c)
    | .error e => .error e
  else
    match readTag c with
    | .ok (tag, c) => .ok ({ properties with tag := some tag }, c)
    | .error e => .error e

/-- A scalar with properties in front of it. -/
def scalarOf (properties : Properties) (plain : Bool) : Read (List Char) → Read Node
  | .ok (text, c) => .ok (.scalar properties plain text, c)
  | .error e => .error e

/-- The greatest distance between the start of a key and its colon. -/
def keyReach : Nat := 1024

/-- Whether what stands between two cursors may be a key. -/
def mayBeKey (start colon : Cursor) : Bool :=
  start.fresh && start.line == colon.line && start.rest.length ≤ colon.rest.length + keyReach

/-! ## Between brackets -/

mutual

/-- A node between brackets, behind some properties. -/
def readFlowNode : Nat → Properties → Cursor → Except Fault (Node × Cursor)
  | 0, _, _ => .error .unfinished
  | fuel + 1, properties, c =>
    if c.atDocumentMarker then .error .unexpected
    else if startsProperty properties c then do
      let (properties, c) ← readProperty properties c
      readFlowNode fuel properties (c.skip false)
    else if c.at? '*' && properties == .none then do
      let (name, c) ← readName c
      return (.alias name, c)
    else if c.at? '\x27' then scalarOf properties false (readQuoted '\x27' c)
    else if c.at? '\x22' then scalarOf properties false (readQuoted '\x22' c)
    else if c.at? '[' then do
      let (items, c) ← readFlowItems fuel { c.next with fresh := true }
      return (.list properties items, c)
    else if c.at? '\x7b' then do
      let (entries, c) ← readFlowEntries fuel { c.next with fresh := true }
      return (.mapping properties entries, c)
    else if startsPlain true c then scalarOf properties true (.ok (readPlain true 0 c))
    else if properties == .none then .error .unexpected
    else .ok (.absent properties, c)

/-- The items of a list up to its closing bracket. -/
def readFlowItems : Nat → Cursor → Except Fault (List Node × Cursor)
  | 0, _ => .error .unfinished
  | fuel + 1, c =>
    let c := c.skip false
    if c.at? ']' then .ok ([], { c.next with fresh := false })
    else do
      let ((key, value), c) ← readFlowEntry fuel ']' c
      let item := (value.map fun value => Node.mapping .none [(key, value)]).getD key
      let c := c.skip false
      if c.at? ',' then
        let (items, c) ← readFlowItems fuel { c.next with fresh := true }
        return (item :: items, c)
      else if c.at? ']' then return ([item], { c.next with fresh := false })
      else .error .unexpected

/-- The entries of a mapping up to its closing brace. -/
def readFlowEntries : Nat → Cursor → Except Fault (List (Node × Node) × Cursor)
  | 0, _ => .error .unfinished
  | fuel + 1, c =>
    let c := c.skip false
    if c.at? '\x7d' then .ok ([], { c.next with fresh := false })
    else do
      let ((key, value), c) ← readFlowEntry fuel '\x7d' c
      let entry := (key, value.getD (.absent .none))
      let c := c.skip false
      if c.at? ',' then
        let (entries, c) ← readFlowEntries fuel { c.next with fresh := true }
        return (entry :: entries, c)
      else if c.at? '\x7d' then return ([entry], { c.next with fresh := false })
      else .error .unexpected

/-- A node between brackets, and the value behind it if it is a key. -/
def readFlowEntry : Nat → Char → Cursor → Except Fault ((Node × Option Node) × Cursor)
  | 0, _, _ => .error .unfinished
  | fuel + 1, close, c =>
    if c.at? '?' then do
      let (key, c) ← readFlowPart fuel close { c.next with fresh := false }
      let c := c.skip false
      if c.at? ':' then
        let (value, c) ← readFlowPart fuel close { c.next with fresh := false }
        return ((key, some value), c)
      else return ((key, some (.absent .none)), c)
    else do
      let (key, behind) ← readFlowNode fuel .none c
      let colon := behind.skip false
      if colon.at? ':' then
        if mayBeKey c colon then
          let (value, c) ← readFlowPart fuel close { colon.next with fresh := false }
          return ((key, some value), c)
        else .error .misplacedKey
      else return ((key, none), colon)

/-- A key or value between brackets, which may be left out. -/
def readFlowPart : Nat → Char → Cursor → Except Fault (Node × Cursor)
  | 0, _, _ => .error .unfinished
  | fuel + 1, close, c =>
    let c := c.skip false
    if c.at? ':' || c.at? ',' || c.at? close then .ok (.absent .none, c)
    else readFlowNode fuel .none c

end

/-! ## Keys -/

/-- A node on one line, up to where a colon may follow. -/
def readInline? : Nat → Properties → Cursor → Except Fault (Option (Node × Cursor))
  | 0, _, _ => .ok none
  | fuel + 1, properties, c =>
    let found (node : Except Fault (Node × Cursor)) : Except Fault (Option (Node × Cursor)) := do
      let (node, c) ← node
      return some (node, c.skipSpaces)
    if startsProperty properties c then do
      let (properties, c) ← readProperty properties c
      readInline? fuel properties c.skipSpaces
    else if c.at? '*' && properties == .none then
      found do
        let (name, c) ← readName c
        return (.alias name, c)
    else if c.at? '\x27' then found (scalarOf properties false (readQuoted '\x27' c))
    else if c.at? '\x22' then found (scalarOf properties false (readQuoted '\x22' c))
    else if c.at? '[' || c.at? '\x7b' then
      found (readFlowNode (4 * c.rest.length + 4) properties c)
    else if startsPlain false c then
      found (scalarOf properties true (.ok (readPlain false 0 c)))
    else if properties == .none then .ok none
    else .ok (some (.absent properties, c))

/-- **The key here**, if there is one, and the cursor at its colon. -/
def readKey? (c : Cursor) : Except Fault (Option (Node × Cursor)) := do
  match ← readInline? 3 .none c with
  | some (key, colon) =>
    if colon.atIndicator ':' && mayBeKey c colon then return some (key, colon) else return none
  | none => return none

/-! ## Lists and mappings by columns -/

/-- Whether a node follows inside a block at column `parent`. A list may
stand at that column itself if `lists` is true. -/
def hasContent (parent : Int) (lists : Bool) (c : Cursor) : Bool :=
  !c.atEnd && !c.atDocumentMarker
    && (parent < c.column || (lists && parent == c.column && c.atIndicator '-'))

/-- Whether the block at a column ends here. -/
def endsBlock (column : Nat) (c : Cursor) : Bool :=
  c.atEnd || c.atDocumentMarker || c.column < column

mutual

/-- A node inside a block, which may be left out. -/
def readBlockPart : Nat → Int → Bool → Cursor → Except Fault (Node × Cursor)
  | 0, _, _, _ => .error .unfinished
  | fuel + 1, parent, lists, c =>
    let c := c.skip true
    if hasContent parent lists c then readBlockNode fuel parent lists .none c
    else .ok (.absent .none, c)

/-- A node inside a block, behind some properties. -/
def readBlockNode : Nat → Int → Bool → Properties → Cursor → Except Fault (Node × Cursor)
  | 0, _, _, _, _ => .error .unfinished
  | fuel + 1, parent, lists, properties, c => do
    if c.fresh && c.atIndicator '-' then
      let (items, c) ← readItems fuel c.column (parent == c.column) c
      return (.list properties items, c)
    else if c.fresh && (c.atIndicator '?' || (← readKey? c).isSome) then
      let (entries, c) ← readEntries fuel c.column c
      return (.mapping properties entries, c)
    else if startsProperty properties c then
      let (properties, c) ← readProperty properties c
      let c := c.skip true
      if hasContent parent lists c then readBlockNode fuel parent lists properties c
      else return (.absent properties, c)
    else if c.at? '*' && properties == .none then
      let (name, c) ← readName c
      return (.alias name, c)
    else if c.at? '|' then scalarOf properties false (readBlockScalar parent false c)
    else if c.at? '>' then scalarOf properties false (readBlockScalar parent true c)
    else if c.at? '\x27' then scalarOf properties false (readQuoted '\x27' c)
    else if c.at? '\x22' then scalarOf properties false (readQuoted '\x22' c)
    else if c.at? '[' || c.at? '\x7b' then readFlowNode (4 * c.rest.length + 4) properties c
    else if startsPlain false c then
      scalarOf properties true (.ok (readPlain false (parent + 1).toNat c))
    else .error .unexpected

/-- The items of a list at a column. If the column is that of the
mapping around it, the list ends where no item follows. -/
def readItems : Nat → Nat → Bool → Cursor → Except Fault (List Node × Cursor)
  | 0, _, _, _ => .error .unfinished
  | fuel + 1, column, loose, c => do
    let (item, c) ← readBlockPart fuel column false { c.next with fresh := true }
    let c := c.skip true
    if endsBlock column c then return ([item], c)
    else if c.column == column && c.atIndicator '-' then
      let (items, c) ← readItems fuel column loose c
      return (item :: items, c)
    else if c.column == column && loose then return ([item], c)
    else .error .indentation

/-- The entries of a mapping at a column. -/
def readEntries : Nat → Nat → Cursor → Except Fault (List (Node × Node) × Cursor)
  | 0, _, _ => .error .unfinished
  | fuel + 1, column, c => do
    let (entry, c) ← readEntry fuel column c
    let c := c.skip true
    if endsBlock column c then return ([entry], c)
    else if c.column == column then
      let (entries, c) ← readEntries fuel column c
      return (entry :: entries, c)
    else .error .indentation

/-- An entry of a mapping at a column. -/
def readEntry : Nat → Nat → Cursor → Except Fault ((Node × Node) × Cursor)
  | 0, _, _ => .error .unfinished
  | fuel + 1, column, c => do
    if c.atIndicator '?' then
      let (key, c) ← readBlockPart fuel column true { c.next with fresh := true }
      let c := c.skip true
      if c.column == column && c.atIndicator ':' then
        let (value, c) ← readBlockPart fuel column true { c.next with fresh := true }
        return ((key, value), c)
      else return ((key, .absent .none), c)
    else
      match ← readKey? c with
      | some (key, colon) =>
        let (value, c) ← readBlockPart fuel column true { colon.next with fresh := false }
        return ((key, value), c)
      | none => .error .misplacedKey

end

/-! ## Directives and documents -/

/-- A document: its root node, and what the handles in its tags stand
for. -/
structure Document where
  /-- The root node. -/
  root : Node
  /-- What the handles stand for. -/
  handles : Handles

/-- The directives of a document. -/
structure Directives where
  /-- Whether the version is given. -/
  version : Bool
  /-- The handles that are introduced. -/
  handles : Handles

/-- The cursor behind some digits, of which there is one at least. -/
def readDigits (c : Cursor) : Read Nat :=
  match c.spanWhile Char.isDigit with
  | ([], _) => .error .unexpected
  | (digits, c) => .ok (Text.numeral 10 digits, c)

/-- What a directive says, behind its name. -/
def readDirectiveValue (name : List Char) (directives : Directives) (c : Cursor) :
    Except Fault (Directives × Cursor) :=
  if name == ['Y', 'A', 'M', 'L'] then do
    let (major, c) ← readDigits c.skipSpaces
    if !c.at? '.' then .error .unexpected
    else
      let (_, c) ← readDigits c.next
      if isAtSpace c && !directives.version && major == 1 then
        return ({ directives with version := true }, c)
      else .error .unexpected
  else if name == ['T', 'A', 'G'] then do
    let c := c.skipSpaces
    let (handle, c) ←
      if c.at? '!' then
        if c.peekAt 1 == some ' ' then .ok ("!", c.next) else readHandle c
      else .error .unexpected
    if !c.at? ' ' then .error .unexpected
    else
      let (start, c) ← readSomeTagRest c.skipSpaces
      if isAtSpace c && (directives.handles.lookup handle).isNone then
        return ({ directives with handles := (handle, start) :: directives.handles }, c)
      else .error .unexpected
  else .ok (directives, (c.spanWhile fun d => !isBreak d).2)

/-- The directives in front of a document. -/
def readDirectives : Nat → Directives → Cursor → Except Fault (Directives × Cursor)
  | 0, directives, c => .ok (directives, c)
  | fuel + 1, directives, c =>
    if c.column == 0 && c.at? '%' then do
      let (name, c) := c.next.spanWhile isTagWord
      if name.isEmpty || !isAtSpace c then .error .unexpected
      else
        let (directives, c) ← readDirectiveValue name directives c
        let c := c.skipSpaces.skipComment
        if c.atEnd || c.lineBreak?.isSome then readDirectives fuel directives (c.skip true)
        else .error .unexpected
    else .ok (directives, c)

/-- The cursor behind the marks that end a document. -/
def skipEnds : Nat → Cursor → Cursor
  | 0, c => c
  | fuel + 1, c =>
    let c := c.skip true
    if c.atMarker ['.', '.', '.'] then skipEnds fuel { Cursor.forward 3 c with fresh := false }
    else c

/-- The characters a document may hold. -/
def isAllowed (c : Char) : Bool :=
  let n := c.toNat
  n == 9 || n == 10 || n == 13 || (0x20 ≤ n && n ≤ 0x7E) || n == 0x85
    || (0xA0 ≤ n && n ≤ 0xFFFD) || 0x10000 ≤ n

/-- A cursor behind a byte order mark. -/
def Cursor.skipMark (c : Cursor) : Cursor := if c.at? '\uFEFF' then c.next else c

/-- **The document of a text**, if the text holds one. -/
def readDocument (text : List Char) : Except Fault (Option Document) :=
  if !text.all isAllowed then .error .unexpected
  else do
    let fuel := 4 * text.length + 8
    let c := (Cursor.start text).skipMark.skip true
    if c.atEnd then return none
    else
      let directed := c.column == 0 && c.at? '%'
      let (directives, c) ← readDirectives fuel ⟨false, []⟩ c
      let announced := c.atMarker ['-', '-', '-']
      if (directed && !announced) || c.atMarker ['.', '.', '.'] then .error .unexpected
      else
        let (root, c) ←
          if announced then
            readBlockPart fuel (-1) false { Cursor.forward 3 c with fresh := false }
          else readBlockNode fuel (-1) false .none c
        if (skipEnds fuel c).atEnd then
          return some ⟨root, directives.handles ++ standardHandles⟩
        else .error .severalDocuments

end TypedTraffic.Yaml
