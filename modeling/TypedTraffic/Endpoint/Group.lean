import TypedTraffic.Capture.Basic
import TypedTraffic.Endpoint.Resource
import TypedTraffic.Form
import TypedTraffic.Ordered

/-!
# Endpoints

An endpoint is a method and a resource. The exchanges of a capture are
grouped by the key of their endpoint, groups in the order in which their
keys first appear and exchanges in the order of the capture; an exchange
whose URL is not absolute belongs to no endpoint.
-/

namespace TypedTraffic

open Endpoint

/-- **The exchanges of one endpoint.** -/
structure EndpointGroup where
  /-- The method, in upper case. -/
  method : String
  /-- The resource. -/
  resource : String
  /-- The exchanges, in order. -/
  exchanges : List Exchange
  deriving DecidableEq

namespace EndpointGroup

/-- The key of an endpoint. -/
def keyOf (method resource : String) : String := method ++ "_" ++ resource

/-- The key of a group. -/
def key (g : EndpointGroup) : String := keyOf g.method g.resource

/-- The group with one exchange more. -/
def add (g : EndpointGroup) (e : Exchange) : EndpointGroup :=
  { g with exchanges := g.exchanges ++ [e] }

/-- The first URL of a group. -/
def firstUrl (g : EndpointGroup) : String :=
  match g.exchanges with
  | [] => ""
  | e :: _ => e.request.url

end EndpointGroup

/-- The absolute URL of an exchange, if it has one. -/
def Exchange.absoluteUrl? (e : Exchange) : Option Url :=
  match Url.parse e.request.url with
  | .ok u => if u.isAbsolute then some u else none
  | .error _ => none

/-- The method and the resource of an exchange with an absolute URL. -/
def Exchange.endpoint? (e : Exchange) : Option (String × String) :=
  e.absoluteUrl?.map fun u => (Text.upper e.request.method, resource u)

/-- Put an exchange into the group of its key, a new one if there is
none. -/
def insertExchange (method resource : String) (e : Exchange) :
    List (String × EndpointGroup) → List (String × EndpointGroup)
  | [] => [(EndpointGroup.keyOf method resource, ⟨method, resource, [e]⟩)]
  | (key, g) :: gs =>
    if key = EndpointGroup.keyOf method resource then (key, g.add e) :: gs
    else (key, g) :: insertExchange method resource e gs

/-- The groups with one exchange of the capture more. -/
def groupExchange (gs : List (String × EndpointGroup)) (e : Exchange) :
    List (String × EndpointGroup) :=
  match e.endpoint? with
  | some (method, resource) => insertExchange method resource e gs
  | none => gs

/-- **The groups of some exchanges by key.** -/
def groupsByKey (exchanges : List Exchange) : List (String × EndpointGroup) :=
  exchanges.foldl groupExchange []

/-- **The groups of some exchanges.** -/
def groupExchanges (exchanges : List Exchange) : List EndpointGroup :=
  (groupsByKey exchanges).map Prod.snd

/-- What is wrong with a list of groups. -/
inductive GroupFault where
  /-- A group has no exchange. -/
  | empty (key : String)
  /-- A key has two groups. -/
  | duplicate (key : String)
  deriving DecidableEq

/-- The key a fault is about. -/
def GroupFault.key : GroupFault → String
  | .empty key => key
  | .duplicate key => key

/-- The text of a fault. -/
def GroupFault.message : GroupFault → String
  | .empty key => "Empty endpoint group: " ++ key
  | .duplicate key => "Duplicate endpoint group: " ++ key

/-- The first fault of some groups behind groups with the given keys. -/
def groupFaultAfter : List String → List EndpointGroup → Option GroupFault
  | _, [] => none
  | seen, g :: gs =>
    if g.exchanges.isEmpty then some (.empty g.key)
    else if g.key ∈ seen then some (.duplicate g.key)
    else groupFaultAfter (g.key :: seen) gs

/-- **The first fault of a list of groups**, if it has one. -/
def groupFault? (gs : List EndpointGroup) : Option GroupFault := groupFaultAfter [] gs

/-- The parameters of the queries of some exchanges, up to the first URL
that cannot be read. -/
def queryPairs : List Exchange → Except Url.Error (List Form.Pair)
  | [] => .ok []
  | e :: es =>
    match Url.parse e.request.url with
    | .error fault => .error fault
    | .ok u =>
      match queryPairs es with
      | .error fault => .error fault
      | .ok pairs => .ok (Form.queryPairs u.query ++ pairs)

/-- Pairs by key, keys in order of first appearance, each with the values
seen. -/
def valuesByKey (pairs : List Form.Pair) : List (String × List String) :=
  (Ordered.distinct (pairs.map Prod.fst)).map fun key =>
    (key, Ordered.distinct ((pairs.filter (·.1 = key)).map Prod.snd))

/-- **The parameters of the queries of some exchanges**, in order of first
appearance, each with the values seen. -/
def queryParameters (exchanges : List Exchange) :
    Except Url.Error (List (String × List String)) :=
  match queryPairs exchanges with
  | .error fault => .error fault
  | .ok pairs => .ok (valuesByKey pairs)

end TypedTraffic
