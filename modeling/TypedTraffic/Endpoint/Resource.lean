import TypedTraffic.Naming.Identifier
import TypedTraffic.Text.Casing
import TypedTraffic.Url.Basic

/-!
# Resources

The resource of a URL is the last segment of its path that is not the
identifier of a record, so that all calls on one collection name the
same resource.
-/

namespace TypedTraffic.Endpoint

open Text

/-- A text without the one line end it may have at its end. -/
def withoutFinalNewline (cs : List Char) : List Char :=
  match cs.reverse with
  | '\n' :: rest => rest.reverse
  | _ => cs

/-- Whether a text is a run of decimal digits, of any script. -/
def isNumeral (cs : List Char) : Bool := !cs.isEmpty && cs.all isDecimal

/-- Whether a text is five groups of 8, 4, 4, 4 and 12 hexadecimal digits
with dashes between them. -/
def isUuid (cs : List Char) : Bool :=
  let groups := split '-' cs
  groups.map List.length == [8, 4, 4, 4, 12] && groups.all (·.all isHex)

/-- Whether a text is such groups, with a name and a dash in front or
without. -/
def endsInUuid (cs : List Char) : Bool :=
  let name := cs.take (cs.length - 36)
  isUuid (cs.drop (cs.length - 36)) &&
    (name.isEmpty || (1 < name.length && name.getLast? == some '-' && !name.dropLast.contains '\n'))

/-- Whether a text is a hash: twenty hexadecimal digits or more. -/
def isHash (cs : List Char) : Bool := 20 ≤ cs.length && cs.all isHex

/-- **Whether a path segment identifies a record.** -/
def isRecordId (segment : List Char) : Bool :=
  let cs := withoutFinalNewline segment
  isNumeral cs || endsInUuid cs || isHash cs

/-- The resource of a path that has none of its own. -/
def rootResource : String := "root"

/-- The last of some segments that identifies no record. -/
def lastName? (segments : List (List Char)) : Option (List Char) :=
  segments.reverse.find? fun segment => !isRecordId segment

/-- **The resource of a URL.** -/
def resource (u : Url) : String :=
  match lastName? u.segments with
  | some segment => String.ofList segment
  | none => rootResource

/-- The most characters of host and path in the name of a function. -/
def nameLimit : Nat := 80

/-- **The name a function asks for**: the method and the words of host
and path. -/
def functionBase (method : String) (u : Url) : String :=
  let place := Naming.joinedWords "root" (u.authority ++ u.path)
  let short := dropEndWhile (· == '_') (place.toList.take nameLimit)
  Naming.joinedWords "call" (lower method) ++ "_" ++ String.ofList short

end TypedTraffic.Endpoint
