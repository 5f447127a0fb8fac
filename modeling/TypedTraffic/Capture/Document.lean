import TypedTraffic.Capture.Basic
import TypedTraffic.Json.Reader
import TypedTraffic.Schema.Scalar

/-!
# Capture documents

A capture is stored as a JSON document: an object with a `log`, in which
`entries` lists the exchanges. Every field but the name of a header and
the request of an entry has a default; keys that are not listed here are
ignored. Two fields have two spellings each, of which the first one
wins.

Before the fields are read, the outline of the document – root, log,
list of entries – can be checked on its own, with an error that says
which part of it is missing.
-/

namespace TypedTraffic.Capture

open Schema

/-- The members of an object. -/
abbrev Members := List (List CodePoint × Json)

/-- A value as a record read from its members. -/
def record {α : Type} (name : String) (read : Members → Checked α) : Json → Checked α
  | .object members => read members
  | _ => Checked.refuse (.notRecord name)

/-- A value as a string. -/
def text : Json → Checked String
  | .string points => .ok (textOf points)
  | _ => Checked.refuse .notText

/-- A value that may be null. -/
def nullable {α : Type} (read : Json → Checked α) : Json → Checked (Option α)
  | .null => .ok none
  | value => (read value).map some

/-- A value as a list. -/
def listOf {α : Type} (read : Json → Checked α) : Json → Checked (List α)
  | .array items => Checked.list read items
  | _ => Checked.refuse .notList

/-- A value as a whole number. -/
def whole : Json → Checked Int
  | .bool b => .ok (if b then 1 else 0)
  | .number (.whole n) => .ok n
  | .number (.decimal d) => wholeOfBinary (Binary64.ofDecimal d)
  | .number (.infinity negative) => wholeOfBinary (.infinite negative)
  | .number .undefined => wholeOfBinary .undefined
  | .string points => wholeOfText (textOf points)
  | _ => Checked.refuse .notWhole

/-- The value under the first of several spellings of a key that is
there, read; a default if none is. -/
def field {α : Type} (members : Members) (default : Checked α) (read : Json → Checked α) :
    List String → Checked α
  | [] => default
  | key :: keys =>
    match Json.get? members key with
    | some value => (read value).under (.key key)
    | none => field members default read keys

/-- A field that has to be there. -/
def required {α : Type} (members : Members) (key : String) (read : Json → Checked α) :
    Checked α :=
  field members ((Checked.refuse .missing).under (.key key)) read [key]

/-- A header. -/
def readHeader : Json → Checked Header :=
  record "HarHeader" fun members =>
    ((required members "name" text).pair (field members (.ok "") text ["value"])).map
      fun (name, value) => ⟨name, value⟩

/-- What a request sends. -/
def readPostData : Json → Checked PostData :=
  record "HarPostData" fun members =>
    ((field members (.ok none) (nullable text) ["mimeType", "mime_type"]).pair
      (field members (.ok none) (nullable text) ["text"])).map
      fun (mimeType, text) => ⟨mimeType, text⟩

/-- A request. -/
def readRequest : Json → Checked Request :=
  record "HarRequest" fun members =>
    (((field members (.ok "GET") text ["method"]).pair
      (field members (.ok "") text ["url"])).pair
      ((field members (.ok []) (listOf readHeader) ["headers"]).pair
        (field members (.ok none) (nullable readPostData) ["postData", "post_data"]))).map
      fun ((method, url), (headers, postData)) => ⟨method, url, headers, postData⟩

/-- What a response brings. -/
def readContent : Json → Checked Content :=
  record "HarContent" fun members =>
    ((field members (.ok none) (nullable text) ["mimeType", "mime_type"]).pair
      ((field members (.ok none) (nullable text) ["text"]).pair
        (field members (.ok none) (nullable text) ["encoding"]))).map
      fun (mimeType, (text, encoding)) => ⟨mimeType, text, encoding⟩

/-- A response. -/
def readResponse : Json → Checked Response :=
  record "HarResponse" fun members =>
    ((field members (.ok 0) whole ["status"]).pair
      ((field members (.ok []) (listOf readHeader) ["headers"]).pair
        (field members (.ok none) (nullable readContent) ["content"]))).map
      fun (status, (headers, content)) => ⟨status, headers, content⟩

/-- An exchange. -/
def readExchange : Json → Checked Exchange :=
  record "HarEntry" fun members =>
    ((required members "request" readRequest).pair
      (field members (.ok Response.default) readResponse ["response"])).map
      fun (request, response) => ⟨request, response⟩

/-- The log of a document. -/
def readLog : Json → Checked Capture :=
  record "HarLog" fun members =>
    ((field members (.ok none) (nullable text) ["version"]).pair
      (field members (.ok []) (listOf readExchange) ["entries"])).map
      fun (version, exchanges) => ⟨version, exchanges⟩

/-- **The capture of a document.** -/
def ofDocument : Json → Checked Capture :=
  record "HarFile" fun members => field members (.ok Capture.empty) readLog ["log"]

/-- What the outline of a document lacks. -/
inductive OutlineFault where
  /-- The root is no object. -/
  | root
  /-- There is no log, or it is no object. -/
  | log
  /-- There are no entries, or they are no list; the value found, null if
  there is none. -/
  | entries (found : Json)

/-- **What the outline of a document lacks**, if anything. -/
def outlineFault? (document : Json) : Option OutlineFault :=
  match document with
  | .object members =>
    match Json.get? members "log" with
    | some (.object log) =>
      match Json.get? log "entries" with
      | some (.array _) => none
      | found => some (.entries (found.getD .null))
    | _ => some .log
  | _ => some .root

/-- **Why a text holds no capture.** -/
inductive LoadError where
  /-- The text is not JSON. -/
  | notJson (kind : Json.FaultKind) (line column offset : Nat)
  /-- The outline lacks a part. -/
  | outline (fault : OutlineFault)
  /-- Fields are malformed. -/
  | fields (errors : List FieldError)
  /-- A limit of the reader is exceeded. -/
  | limit (e : Json.Error)

/-- The text of an error. -/
def LoadError.message : LoadError → String
  | .notJson kind line column offset =>
    "Invalid HAR file: not valid JSON ("
      ++ (Json.Error.malformed kind line column offset).message ++ ")"
  | .outline .root => "Invalid HAR file: Root must be an object"
  | .outline .log => "Invalid HAR file: Missing or invalid \"log\" property"
  | .outline (.entries _) => "Invalid HAR file: Missing or invalid \"entries\" array"
  | .fields errors => "Invalid HAR file: " ++ toString errors.length ++ " malformed field(s)"
  | .limit e => e.message

end TypedTraffic.Capture
