import TypedTraffic.Yaml.Tag

/-!
# Nodes of a YAML document

A document is a tree of nodes. A node may be given a name (an anchor),
and a node further on may stand for it (an alias). Linking puts the
named nodes in the place of their aliases.
-/

namespace TypedTraffic.Yaml

/-- What may be written in front of a node. -/
structure Properties where
  /-- The name of the node. -/
  anchor : Option (List Char)
  /-- The tag of the node. -/
  tag : Option WrittenTag
  deriving DecidableEq

/-- Nothing in front of a node. -/
def Properties.none : Properties := ⟨.none, .none⟩

/-- **A node.** -/
inductive Node where
  /-- The node of a name. -/
  | alias (name : List Char)
  /-- A scalar. -/
  | scalar (properties : Properties) (plain : Bool) (text : List Char)
  /-- A list. -/
  | list (properties : Properties) (items : List Node)
  /-- A mapping. -/
  | mapping (properties : Properties) (entries : List (Node × Node))

namespace Node

/-- The node where nothing is written behind some properties. -/
def absent (properties : Properties) : Node := .scalar properties true []

/-- The nodes that have names, the last one first; a node that is still
open has none yet. -/
abbrev Anchors := List (List Char × Option Node)

/-- The names with that of a node that begins. -/
def openAnchor (properties : Properties) (anchors : Anchors) : Except Fault Anchors :=
  match properties.anchor with
  | none => .ok anchors
  | some name =>
    if (anchors.lookup name).isSome then .error .reference else .ok ((name, none) :: anchors)

/-- The names with that of a node that ends. -/
def closeAnchor (properties : Properties) (node : Node) (anchors : Anchors) : Anchors :=
  match properties.anchor with
  | none => anchors
  | some name => (name, some node) :: anchors

mutual

/-- **A node with its aliases replaced**, and the names that are known
behind it. -/
def link (anchors : Anchors) : Node → Except Fault (Node × Anchors)
  | .alias name =>
    match anchors.lookup name with
    | some (some node) => .ok (node, anchors)
    | _ => .error .reference
  | .scalar properties plain text =>
    match openAnchor properties anchors with
    | .ok anchors =>
      let node := .scalar properties plain text
      .ok (node, closeAnchor properties node anchors)
    | .error e => .error e
  | .list properties items =>
    match openAnchor properties anchors with
    | .ok anchors =>
      match linkItems anchors items with
      | .ok (items, anchors) =>
        .ok (.list properties items, closeAnchor properties (.list properties items) anchors)
      | .error e => .error e
    | .error e => .error e
  | .mapping properties entries =>
    match openAnchor properties anchors with
    | .ok anchors =>
      match linkEntries anchors entries with
      | .ok (entries, anchors) =>
        .ok (.mapping properties entries,
          closeAnchor properties (.mapping properties entries) anchors)
      | .error e => .error e
    | .error e => .error e
  termination_by structural node => node

/-- The items of a list with their aliases replaced. -/
def linkItems (anchors : Anchors) : List Node → Except Fault (List Node × Anchors)
  | [] => .ok ([], anchors)
  | item :: items =>
    match link anchors item with
    | .ok (item, anchors) =>
      match linkItems anchors items with
      | .ok (items, anchors) => .ok (item :: items, anchors)
      | .error e => .error e
    | .error e => .error e
  termination_by structural items => items

/-- The entries of a mapping with their aliases replaced. -/
def linkEntries (anchors : Anchors) :
    List (Node × Node) → Except Fault (List (Node × Node) × Anchors)
  | [] => .ok ([], anchors)
  | (key, value) :: entries =>
    match link anchors key with
    | .ok (key, anchors) =>
      match link anchors value with
      | .ok (value, anchors) =>
        match linkEntries anchors entries with
        | .ok (entries, anchors) => .ok ((key, value) :: entries, anchors)
        | .error e => .error e
      | .error e => .error e
    | .error e => .error e
  termination_by structural entries => entries

end

end Node

end TypedTraffic.Yaml
