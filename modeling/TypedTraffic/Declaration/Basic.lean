/-!
# Type declarations

The types of the generated program are interfaces, each a list of named
fields, and aliases. A definition is what one sample or one set of query
parameters leads to: a root interface with the auxiliary interfaces its
fields refer to, or an alias for a sample that was not understood.
-/

namespace TypedTraffic

/-- **A type expression**, as it stands behind a field name. -/
inductive TypeExpr where
  /-- Nothing is known about the values. -/
  | any
  /-- Truth values. -/
  | boolean
  /-- Numbers. -/
  | number
  /-- Strings. -/
  | string
  /-- A value of a query parameter. -/
  | queryValue
  /-- A reference to a declaration by name. -/
  | named (name : String)
  /-- A list of values of one type. -/
  | array (element : TypeExpr)
  deriving DecidableEq

/-- The text of a type expression. -/
def TypeExpr.text : TypeExpr → String
  | .any => "any"
  | .boolean => "boolean"
  | .number => "number"
  | .string => "string"
  | .queryValue => "string | number | boolean"
  | .named name => name
  | .array element => element.text ++ "[]"

/-- **A field of an interface.** -/
structure Field where
  /-- The name in the generated program. -/
  name : String
  /-- The type of the value. -/
  type : TypeExpr
  /-- Whether the field may be absent. -/
  optional : Bool
  deriving DecidableEq

/-- The line that declares a field. -/
def Field.line (f : Field) : String :=
  "  " ++ f.name ++ (if f.optional then "?" else "") ++ ": " ++ f.type.text ++ ";"

/-- **An interface**: a name for a list of fields. -/
structure Interface where
  /-- The declared name. -/
  name : String
  /-- The fields, in the order of their declaration. -/
  fields : List Field
  deriving DecidableEq

/-- The lines of an interface declaration. -/
def Interface.lines (i : Interface) : List String :=
  ("interface " ++ i.name ++ " \x7b") :: i.fields.map Field.line ++ ["\x7d"]

/-- The text of an interface declaration. -/
def Interface.text (i : Interface) : String := "\n".intercalate i.lines

/-- What an alias stands for. -/
inductive AliasTarget where
  /-- Nothing is known about the values. -/
  | any
  /-- Some fields, all of them text. -/
  | textRecord
  deriving DecidableEq

/-- The text of what an alias stands for. -/
def AliasTarget.text : AliasTarget → String
  | .any => "any"
  | .textRecord => "Record<string, string>"

/-- **A definition**: what one source of types leads to. -/
inductive Definition where
  /-- A root interface and the auxiliary interfaces of its fields. -/
  | interfaces (root : Interface) (auxiliary : List Interface)
  /-- A name for values of which less is known. -/
  | alias (name : String) (target : AliasTarget)
  deriving DecidableEq

/-- The text of a definition: declarations with a blank line between. -/
def Definition.text : Definition → String
  | .interfaces root auxiliary => "\n\n".intercalate ((root :: auxiliary).map Interface.text)
  | .alias name target => "type " ++ name ++ " = " ++ target.text ++ ";"

/-- The names a definition declares, its own first. -/
def Definition.names : Definition → List String
  | .interfaces root auxiliary => (root :: auxiliary).map Interface.name
  | .alias name _ => [name]

/-- Whether a definition is an alias. -/
def Definition.isAlias : Definition → Bool
  | .interfaces _ _ => false
  | .alias _ _ => true

end TypedTraffic
