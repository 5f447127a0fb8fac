import TypedTraffic.Text.Casing

/-!
# Captures

A capture is a recording of HTTP traffic: exchanges of a request and the
response to it, in the order in which they happened. Only what types and
functions are made from is kept.
-/

namespace TypedTraffic

open Text

/-- **A header.** -/
structure Header where
  /-- The name as written. -/
  name : String
  /-- The value. -/
  value : String
  deriving DecidableEq

/-- What a request sends. -/
structure PostData where
  /-- The declared media type. -/
  mimeType : Option String
  /-- The text. -/
  text : Option String
  deriving DecidableEq

/-- **A request.** -/
structure Request where
  /-- The method as written. -/
  method : String
  /-- The URL as written. -/
  url : String
  /-- The headers, in order. -/
  headers : List Header
  /-- What is sent, if anything. -/
  postData : Option PostData
  deriving DecidableEq

/-- What a response brings. -/
structure Content where
  /-- The declared media type. -/
  mimeType : Option String
  /-- The text, or the encoded bytes. -/
  text : Option String
  /-- How the bytes are encoded, if they are. -/
  encoding : Option String
  deriving DecidableEq

/-- **A response.** -/
structure Response where
  /-- The status. -/
  status : Int
  /-- The headers, in order. -/
  headers : List Header
  /-- What is received, if anything. -/
  content : Option Content
  deriving DecidableEq

/-- **An exchange**: a request and the response to it. -/
structure Exchange where
  /-- The request. -/
  request : Request
  /-- The response. -/
  response : Response
  deriving DecidableEq

/-- **A capture.** -/
structure Capture where
  /-- The version of the format, if it is given. -/
  version : Option String
  /-- The exchanges, in order. -/
  exchanges : List Exchange
  deriving DecidableEq

/-- The response when a document gives none. -/
def Response.default : Response := ⟨0, [], none⟩

/-- The capture without exchanges. -/
def Capture.empty : Capture := ⟨none, []⟩

/-- **The value of the first header of a name**, whatever the case of its
letters. -/
def header? (headers : List Header) (name : String) : Option String :=
  (headers.find? fun h => lower h.name == lower name).map Header.value

/-- Whether a header belongs to the framing of a connection and is never
sent by a client: its name starts with a colon. -/
def Header.isFraming (h : Header) : Bool := h.name.toList.head? == some ':'

/-- The media type of URL-encoded forms. -/
def formMimeType : String := "application/x-www-form-urlencoded"

/-- Whether `part` occurs in a list. -/
def occursIn (part : List Char) : List Char → Bool
  | [] => part.isEmpty
  | c :: cs => part.isPrefixOf (c :: cs) || occursIn part cs

/-- **Whether a media type declares a form**, parameters aside. -/
def isFormMimeType (mime : Option String) : Bool :=
  match mime with
  | none => false
  | some mime => occursIn formMimeType.toList (lower mime).toList

end TypedTraffic
