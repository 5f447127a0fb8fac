import TypedTraffic.Capture.Recording
import TypedTraffic.Endpoint.Group
import TypedTraffic.Options
import TypedTraffic.Sample
import TypedTraffic.Session.Binding

/-!
# Sessions

A session is what the endpoints of one run share: the names of fields,
the names of functions and the registry of definitions. Binding an
endpoint names its query parameters, infers its bodies one after the
other and registers what they lead to; of several bodies the last one
that can be used gives the type.

A notice is printed as soon as there is one. If something stands in its
line for half of a surrogate pair, the line has no bytes, and the run
stops there.
-/

namespace TypedTraffic

open Naming Text

/-- **The state of a run.** -/
structure Session where
  /-- The options. -/
  options : Options
  /-- The names of fields, by source name. -/
  fieldNames : FieldNames
  /-- The names of functions, by endpoint key. -/
  functionNames : Table String
  /-- The definitions. -/
  types : TypeRegistry
  /-- The notices so far, in order. -/
  notices : List Notice

namespace Session

/-- The state at the start of a run. -/
def start (options : Options) : Session :=
  ⟨options, Table.empty, Table.empty, TypeRegistry.empty options.mergeTypes, []⟩

/-- The state with everything forgotten but the options. -/
def reset (s : Session) : Session :=
  { s with
    fieldNames := Table.empty
    functionNames := Table.empty
    types := s.types.cleared
    notices := [] }

/-- **A notice that cannot be printed**: those that were printed before it,
and why its line has no bytes. -/
structure Unprinted where
  /-- The notices before it. -/
  earlier : List Notice
  /-- Why its line has no bytes. -/
  fault : EncodingFault
  deriving DecidableEq

/-- **The state with one notice more**, if there is one and it can be
printed. -/
def note (standIns : StandIns) (s : Session) (notice : Option Notice) :
    Except Unprinted Session :=
  match notice.bind fun n => standIns.fault? n.line with
  | some fault => .error ⟨s.notices, fault⟩
  | none => .ok { s with notices := s.notices ++ notice.toList }

/-- Infer a sample in the names of a session. -/
def infer (standIns : StandIns) (s : Session) (name : String) (payload : Payload)
    (mime : Option String) : Except Unprinted (Definition × Session) :=
  let inference := Sample.infer name payload mime s.fieldNames
  match { s with fieldNames := inference.names }.note standIns inference.notice with
  | .error u => .error u
  | .ok s => .ok (inference.definition, s)

/-- Register a definition under a name. -/
def register (s : Session) (name definition : String) :
    Except RegistryError ((String × Bool) × Session) :=
  match s.types.register name definition with
  | .ok (answer, types) => .ok (answer, { s with types := types })
  | .error e => .error e

/-- The stem of the type of a body: the number of definitions is part of
it, unless there is none yet. -/
def bodyStem (s : Session) (stem : String) : String :=
  if s.types.size = 0 then stem else stem ++ toString s.types.size

/-- **Register the type of a body.** The answer is the name to refer to,
or the reason why the definition is refused; the notices and names of
the inference stay in either case. A notice that is not printed stays in
front of the next one, so no notice of what is passed over is printed in
its place. -/
def registerBody (standIns : StandIns) (s : Session) (stem text : String)
    (mime : Option String) : Except Unprinted (Except RegistryError String × Session) :=
  let name := s.types.available (s.bodyStem stem)
  match s.infer standIns name (.text text) mime with
  | .error u => .error u
  | .ok (definition, s) =>
    match s.register name definition.text with
    | .ok ((name, _), s) => .ok (.ok name, s)
    | .error e => .ok (.error e, s)

/-- The fields of an interface for query parameters, with the field names
after them. -/
def paramFields : FieldNames → List String → List Field × FieldNames
  | names, [] => ([], names)
  | names, key :: keys =>
    let (name, names) := names.nameField (codePoints key)
    let (fields, names) := paramFields names keys
    (⟨name, .queryValue, true⟩ :: fields, names)

/-- Why an endpoint cannot be bound. -/
inductive BindingError where
  /-- The group has no exchange. -/
  | noExchange
  /-- The URL of an exchange cannot be read. -/
  | url (e : Url.Error)
  /-- The type of the parameters is refused. -/
  | params (e : RegistryError)
  /-- A notice cannot be printed. -/
  | unprinted (u : Unprinted)
  deriving DecidableEq

/-- The text of an error. -/
def BindingError.message : BindingError → String
  | .noExchange => "list index out of range"
  | .url e => e.message
  | .params e => e.message
  | .unprinted u => Terminal.faultMessage u.fault

/-- **Register the type of the query parameters of an endpoint.** -/
def registerParams (s : Session) (stem : String) (exchanges : List Exchange) :
    Except BindingError (String × Session) :=
  match queryParameters exchanges with
  | .error e => .error (.url e)
  | .ok [] => .ok (unknownParams, s)
  | .ok parameters =>
    let name := s.types.available stem
    let (fields, names) := paramFields s.fieldNames (parameters.map Prod.fst)
    match { s with fieldNames := names }.register name (Interface.text ⟨name, fields⟩) with
    | .ok ((name, _), s) => .ok (name, s)
    | .error e => .error (.params e)

/-- The type that one exchange more leads to, given the type so far. -/
abbrev TypeStep := Session → String → Exchange → Except Unprinted (String × Session)

/-- The type that some exchanges lead to, one after the other, given the
type so far. -/
def typeAfter (step : TypeStep) :
    Session → String → List Exchange → Except Unprinted (String × Session)
  | s, type, [] => .ok (type, s)
  | s, type, e :: es =>
    match step s type e with
    | .error u => .error u
    | .ok (type, s) => typeAfter step s type es

/-- The type of request bodies, after one request more. -/
def requestStep (standIns : StandIns) (stem : String) : TypeStep := fun s type e =>
  match e.request.body with
  | ⟨none, _⟩ => .ok (type, s)
  | ⟨some text, mime⟩ =>
    match s.registerBody standIns stem text mime with
    | .error u => .error u
    | .ok (.ok name, s) => .ok (name, s)
    | .ok (.error cause, s) =>
      match s.note standIns (some (.requestPassedOver e.request.url cause)) with
      | .error u => .error u
      | .ok s => .ok (type, s)

/-- The type of responses, after one response more. -/
def responseStep (standIns : StandIns) (stem : String) : TypeStep := fun s type e =>
  match e.response.body with
  | .error cause =>
    match s.note standIns (some (.responsePassedOver e.request.url (.undecodable cause))) with
    | .error u => .error u
    | .ok s => .ok (type, s)
  | .ok ⟨text, mime⟩ =>
    match nonempty? text with
    | none => .ok (type, s)
    | some text =>
      match s.registerBody standIns stem text mime with
      | .error u => .error u
      | .ok (.ok name, s) => .ok (responseOf name, s)
      | .ok (.error cause, s) =>
        match s.note standIns (some (.responsePassedOver e.request.url (.refused cause))) with
        | .error u => .error u
        | .ok s => .ok (type, s)

/-- The type of the request bodies of some exchanges. -/
def bodyType (standIns : StandIns) (stem : String) (s : Session) (es : List Exchange) :
    Except Unprinted (String × Session) :=
  typeAfter (requestStep standIns stem) s noBody es

/-- The type of the responses of some exchanges. -/
def responseType (standIns : StandIns) (stem : String) (s : Session) (es : List Exchange) :
    Except Unprinted (String × Session) :=
  typeAfter (responseStep standIns stem) s unknownResponse es

/-- **Bind an endpoint.** -/
def bind (standIns : StandIns) (s : Session) (g : EndpointGroup) :
    Except BindingError (Binding × Session) :=
  match g.exchanges with
  | [] => .error .noExchange
  | first :: _ =>
    match Url.parse first.request.url with
    | .error e => .error (.url e)
    | .ok u =>
      let stem := s.options.typePrefix ++ titleWords "Root" g.resource
      match s.registerParams (stem ++ "Params") g.exchanges with
      | .error e => .error e
      | .ok (paramsType, s) =>
        match s.bodyType standIns (stem ++ "Request") g.exchanges with
        | .error u => .error (.unprinted u)
        | .ok (bodyType, s) =>
          match s.responseType standIns (stem ++ "Response") g.exchanges with
          | .error u => .error (.unprinted u)
          | .ok (responseType, s) =>
            let (functionName, functionNames) :=
              s.functionNames.assign g.key (Endpoint.functionBase g.method u)
            .ok
              ({ functionName := functionName
                 method := g.method
                 origin := u.origin
                 path := u.pathOrRoot
                 paramsType := paramsType
                 bodyType := bodyType
                 responseType := responseType
                 headers := first.request.headers.filter fun h => !h.isFraming },
               { s with functionNames := functionNames })

/-- Bind several endpoints, one after the other. -/
def bindAll (standIns : StandIns) :
    Session → List EndpointGroup → Except BindingError (List Binding × Session)
  | s, [] => .ok ([], s)
  | s, g :: gs =>
    match s.bind standIns g with
    | .error e => .error e
    | .ok (binding, s) =>
      match bindAll standIns s gs with
      | .error e => .error e
      | .ok (bindings, s) => .ok (binding :: bindings, s)

/-- What a run reports on its way. -/
inductive Progress where
  /-- The exchanges are grouped: how many of them, of how many, into how
  many endpoints. -/
  | grouped (kept total endpoints : Nat)
  /-- The types are inferred: how many types and functions there are. -/
  | inferred (types functions : Nat)
  deriving DecidableEq

/-- The text of a report. -/
def Progress.message : Progress → String
  | .grouped kept total endpoints =>
    "Grouped " ++ toString kept ++ "/" ++ toString total ++ " entries into "
      ++ toString endpoints ++ " endpoints"
  | .inferred types functions =>
    "Inferred " ++ toString types ++ " types, " ++ toString functions ++ " functions"

/-- **What a run makes of a capture**: definitions and bindings. -/
structure Sdk where
  /-- The definitions, in order of registration. -/
  types : List TypeEntry
  /-- The bindings, in order of their endpoints. -/
  bindings : List Binding

/-- Why a run stops. -/
inductive RunError where
  /-- The groups are inconsistent. -/
  | groups (fault : GroupFault)
  /-- An endpoint cannot be bound. -/
  | binding (e : BindingError)
  deriving DecidableEq

/-- The text of an error. -/
def RunError.message : RunError → String
  | .groups fault => fault.message
  | .binding e => e.message

/-- The number of exchanges in some groups. -/
def keptCount (gs : List EndpointGroup) : Nat := (gs.flatMap (·.exchanges)).length

/-- The report of a run that has grouped the exchanges of a capture. -/
def grouped (capture : Capture) : Progress :=
  let gs := groupExchanges capture.exchanges
  .grouped (keptCount gs) capture.exchanges.length gs.length

/-- The report of a run that is done. -/
def Sdk.inferred (sdk : Sdk) : Progress := .inferred sdk.types.length sdk.bindings.length

/-- **Run over a capture** in which something may stand in for halves of
surrogate pairs, from a state with everything forgotten. -/
def runWith (standIns : StandIns) (s : Session) (capture : Capture) :
    Except RunError (Sdk × Session) :=
  let gs := groupExchanges capture.exchanges
  match groupFault? gs with
  | some fault => .error (.groups fault)
  | none =>
    match s.reset.bindAll standIns gs with
    | .error e => .error (.binding e)
    | .ok (bindings, s) => .ok (⟨s.types.entries, bindings⟩, s)

/-- **Run over a capture** where every notice can be printed. -/
def run (s : Session) (capture : Capture) : Except RunError (Sdk × Session) :=
  s.runWith [] capture

end Session

/-- **The types and bindings of a capture** under some options, with the
state at the end, where every notice can be printed. -/
def generate (options : Options) (capture : Capture) :
    Except Session.RunError (Session.Sdk × Session) :=
  (Session.start options).run capture

/-- **The types and bindings of a recording** under some options, with the
state at the end. -/
def Recording.generate (options : Options) (recording : Recording) :
    Except Session.RunError (Session.Sdk × Session) :=
  (Session.start options).runWith recording.standIns recording.capture

end TypedTraffic
