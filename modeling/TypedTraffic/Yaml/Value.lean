import TypedTraffic.Setting
import TypedTraffic.Text.Base64
import TypedTraffic.Yaml.Document

/-!
# Values of a YAML document

The tags of the nodes say what the nodes stand for. In a mapping, a key
that comes again replaces the earlier value; the entries of mappings
that are merged in count as if they stood in front of all others, and of
several merged mappings the first one wins.
-/

namespace TypedTraffic.Yaml

/-- **Why a text has no value.** -/
inductive Error where
  /-- The text is not YAML, or a node cannot be what its tag says. -/
  | fault (fault : Fault)
  /-- A scalar is not the number its tag says. -/
  | number (fault : NumberFault)
  /-- A scalar is written as a time, but there is no such time. -/
  | time (fault : TimeFault)
  /-- A scalar is not the truth value its tag says. -/
  | truth (word : String)

/-- The text of an error. -/
def Error.message : Error → String
  | .fault f => f.text
  | .number f => f.message
  | .time f => f.message
  | .truth word => Text.quoted word

/-- The bytes that the text of a scalar stands for. -/
def bytesOf (text : List Char) : Except Error Setting :=
  match Text.Base64.decode (String.ofList text) with
  | .ok bytes => .ok (.bytes bytes)
  | .error _ => .error (.fault .unexpected)

/-- The day or the point in time that the text of a scalar stands for. -/
def timeOf (text : List Char) : Except Error Setting :=
  match readTime? text with
  | none => .error (.fault .unexpected)
  | some time =>
    match time.moment with
    | .error e => .error (.time e)
    | .ok m => .ok (if time.clock.isSome then .moment m else .day m.year m.month m.day)

/-- **The value of a scalar** of a kind. -/
def scalarValue (tag : Tag) (text : List Char) : Except Error Setting :=
  match tag with
  | .null => .ok .null
  | .truth =>
    let word := String.ofList (text.map Char.toLower)
    match truthWords.lookup word with
    | some b => .ok (.truth b)
    | none => .error (.truth word)
  | .whole =>
    match whole text with
    | .ok n => .ok (.whole n)
    | .error e => .error (.number e)
  | .real =>
    match real text with
    | .ok x => .ok (.real x)
    | .error e => .error (.number e)
  | .text => .ok (.text (String.ofList text))
  | .bytes => bytesOf text
  | .time => timeOf text
  | _ => .error (.fault .unknownTag)

/-- The kind that the properties of a node give it, or the kind it has
without a tag. -/
def kindOf (handles : Handles) (properties : Properties) (untagged unspecific : Tag) :
    Except Error Tag :=
  match properties.tag with
  | none => .ok untagged
  | some tag =>
    match tag.name handles with
    | .error e => .error (.fault e)
    | .ok name =>
      if name == "!" then .ok unspecific
      else
        match Tag.ofName? name with
        | some kind => .ok kind
        | none => .error (.fault .unknownTag)

/-- **The kind of a node.** -/
def Node.kind (handles : Handles) : Node → Except Error Tag
  | .alias _ => .error (.fault .reference)
  | .scalar properties plain text =>
    kindOf handles properties (if plain then .ofPlain text else .text) (.ofPlain text)
  | .list properties _ => kindOf handles properties .list .list
  | .mapping properties _ => kindOf handles properties .mapping .mapping

/-- Whether a value may be a key. -/
def mayBeKeyValue : Setting → Bool
  | .list _ => false
  | .pairs _ => false
  | .mapping _ => false
  | .set _ => false
  | _ => true

/-- The whole number that a value is equal to. -/
def wholeNumber? : Setting → Option Int
  | .truth b => some (if b then 1 else 0)
  | .whole n => some n
  | .real x => x.toInt?
  | _ => none

/-- Whether two values are one key. -/
def isSameKey (a b : Setting) : Bool :=
  match a, b with
  | .null, .null => true
  | .text s, .text t => s == t
  | .bytes s, .bytes t => s == t
  | .day y m d, .day y' m' d' => y == y' && m == m' && d == d'
  | .moment s, .moment t => s == t
  | .real (.finite n m e), .real (.finite n' m' e') =>
    Binary64.finite n m e == Binary64.finite n' m' e'
  | .real (.infinite n), .real (.infinite n') => n == n'
  | a, b =>
    match wholeNumber? a, wholeNumber? b with
    | some n, some n' => n == n'
    | _, _ => false

/-- An entry put into a mapping, over the value its key has there. -/
def putEntry (entries : List (Setting × Setting)) (entry : Setting × Setting) :
    List (Setting × Setting) :=
  match entries with
  | [] => [entry]
  | first :: rest =>
    if isSameKey first.1 entry.1 then (first.1, entry.2) :: rest
    else first :: putEntry rest entry

/-- The mapping that entries make, each over the ones before it. -/
def collect (entries : List (Setting × Setting)) : List (Setting × Setting) :=
  entries.foldl putEntry []

/-- The entries of a mapping: those merged in, and its own. -/
structure Entries where
  /-- The entries merged in. -/
  merged : List (Setting × Setting)
  /-- Its own entries. -/
  own : List (Setting × Setting)

/-- All entries, the ones that win last. -/
def Entries.all (entries : Entries) : List (Setting × Setting) := entries.merged ++ entries.own

/-- The text of a scalar if it is asked for, or another value. -/
def scalarOr (node : Node) (asText : Bool) (value : Except Error Setting) :
    Except Error Setting :=
  match node, asText with
  | .scalar _ _ text, true => .ok (.text (String.ofList text))
  | _, _ => value

mutual

/-- **The value of a node.** -/
def Node.value (handles : Handles) : Node → Except Error Setting
  | .alias _ => .error (.fault .reference)
  | .scalar properties plain text => do
    scalarValue (← Node.kind handles (.scalar properties plain text)) text
  | .list properties items => do
    match ← kindOf handles properties .list .list with
    | .list => return .list (← Node.values handles items)
    | .pairs => return .pairs (← Node.pairValues handles items)
    | .ordered => return .pairs (← Node.pairValues handles items)
    | _ => .error (.fault .unknownTag)
  | .mapping properties entries => do
    match ← kindOf handles properties .mapping .mapping with
    | .mapping => return .mapping (collect (← Node.entryValues handles entries).all)
    | .set => return .set ((collect (← Node.entryValues handles entries).all).map (·.1))
    | _ => .error (.fault .unknownTag)
  termination_by structural node => node

/-- The values of the items of a list. -/
def Node.values (handles : Handles) : List Node → Except Error (List Setting)
  | [] => .ok []
  | item :: items => do
    return (← Node.value handles item) :: (← Node.values handles items)
  termination_by structural items => items

/-- The pairs that mappings of one entry stand for. -/
def Node.pairValues (handles : Handles) : List Node → Except Error (List (Setting × Setting))
  | [] => .ok []
  | .mapping _ [(key, value)] :: items => do
    let pair := (← Node.value handles key, ← Node.value handles value)
    return pair :: (← Node.pairValues handles items)
  | _ :: _ => .error (.fault .unknownTag)
  termination_by structural items => items

/-- The entries of a mapping with their values. -/
def Node.entryValues (handles : Handles) : List (Node × Node) → Except Error Entries
  | [] => .ok ⟨[], []⟩
  | (key, value) :: entries => do
    match ← Node.kind handles key with
    | .merge =>
      let merged ← Node.mergedValues handles value
      let rest ← Node.entryValues handles entries
      return { rest with merged := merged ++ rest.merged }
    | kind =>
      let key ← scalarOr key (kind = .defaultValue) (Node.value handles key)
      if !mayBeKeyValue key then .error (.fault .unexpected)
      else
        let value ← Node.value handles value
        let rest ← Node.entryValues handles entries
        return { rest with own := (key, value) :: rest.own }
  termination_by structural entries => entries

/-- The entries that a node merges into a mapping. -/
def Node.mergedValues (handles : Handles) : Node → Except Error (List (Setting × Setting))
  | .mapping _ entries => do return (← Node.entryValues handles entries).all
  | .list _ items => Node.mergedItems handles items
  | _ => .error (.fault .unexpected)
  termination_by structural node => node

/-- The entries that a list of mappings merges into a mapping, those of
the first mapping last. -/
def Node.mergedItems (handles : Handles) : List Node → Except Error (List (Setting × Setting))
  | [] => .ok []
  | .mapping _ entries :: items => do
    let first ← Node.entryValues handles entries
    return (← Node.mergedItems handles items) ++ first.all
  | _ :: _ => .error (.fault .unexpected)
  termination_by structural items => items

end

/-- **The value of a text**, which is no value if the text holds no
document. -/
def read (text : String) : Except Error Setting :=
  match readDocument text.toList with
  | .error e => .error (.fault e)
  | .ok none => .ok .null
  | .ok (some document) =>
    match document.root.link [] with
    | .error e => .error (.fault e)
    | .ok (root, _) => root.value document.handles

end TypedTraffic.Yaml
