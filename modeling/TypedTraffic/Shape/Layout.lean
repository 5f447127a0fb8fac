import TypedTraffic.Shape.Basic
import TypedTraffic.Naming.Numbered
import TypedTraffic.Declaration.Basic
import TypedTraffic.Fingerprint

/-!
# Laying a shape out as interfaces

The record at the root of a sample becomes the root interface; every
record below it becomes an auxiliary interface named after the root and
the key it stands under. Records of one sample that are declared alike
share one interface, so the layout carries the auxiliary interfaces
declared so far; inner records are declared before the records around
them.
-/

namespace TypedTraffic

open Naming

/-- **What the layout of one sample is relative to**: the name of the
root and the names of the fields. -/
structure Layout where
  /-- The name of the root interface. -/
  root : String
  /-- The name of the field for a key. -/
  fieldName : SourceName → String

namespace Layout

/-- The fingerprint of a list of fields, whatever interface they are in. -/
def fieldsToken (fields : List Field) : String := fingerprint (Interface.text ⟨"_", fields⟩)

/-- The auxiliary interface that is declared alike, if there is one. -/
def alike? (declared : List Interface) (fields : List Field) : Option Interface :=
  let token := fieldsToken fields
  declared.find? fun i => fieldsToken i.fields == token

/-- The name of an auxiliary interface for the values of a key. -/
def auxiliaryName (l : Layout) (key : SourceName) (declared : List Interface) : String :=
  firstFree "" (l.root :: declared.map Interface.name)
    (l.root ++ titleWords "Field" (textOf key))

/-- The type of a record with the given fields: the auxiliary interface
that is declared alike, or a new one. -/
def declare (l : Layout) (key : SourceName) (fields : List Field) (declared : List Interface) :
    TypeExpr × List Interface :=
  match alike? declared fields with
  | some i => (.named i.name, declared)
  | none =>
    let name := l.auxiliaryName key declared
    (.named name, declared ++ [⟨name, fields⟩])

mutual

/-- **The type of the values of a key**, with the auxiliary interfaces
declared after it. -/
def typeOf (l : Layout) (key : SourceName) : Shape → List Interface → TypeExpr × List Interface
  | .any, declared => (.any, declared)
  | .boolean, declared => (.boolean, declared)
  | .number, declared => (.number, declared)
  | .string, declared => (.string, declared)
  | .array element, declared =>
    let (type, declared) := typeOf l key element declared
    (.array type, declared)
  | .record fields, declared =>
    let (fields, declared) := fieldsOf l fields declared
    l.declare key fields declared
  termination_by structural shape => shape

/-- **The fields of a record**, with the auxiliary interfaces declared
after them. -/
def fieldsOf (l : Layout) :
    List (SourceName × Bool × Shape) → List Interface → List Field × List Interface
  | [], declared => ([], declared)
  | (key, optional, shape) :: fields, declared =>
    let (type, declared) := typeOf l key shape declared
    let (fields, declared) := fieldsOf l fields declared
    (⟨l.fieldName key, type, optional⟩ :: fields, declared)
  termination_by structural fields => fields

end

/-- **The definition of a sample**: its root interface, then the
auxiliary ones. -/
def definition (l : Layout) (fields : List (SourceName × Bool × Shape)) : Definition :=
  let (fields, declared) := l.fieldsOf fields []
  .interfaces ⟨l.root, fields⟩ declared

end Layout

end TypedTraffic
