import TypedTraffic.Capture.Basic
import TypedTraffic.Text.Base64
import TypedTraffic.Text.Utf8

/-!
# Bodies

The body of a request or a response is its text and its media type: the
declared one, or that of the content type header. A response may hold
its body as encoded bytes, and then the text is what they decode to.
-/

namespace TypedTraffic

open Text

/-- **A body**: its text and its media type, as far as they are known. -/
structure Body where
  /-- The text. -/
  text : Option String
  /-- The media type. -/
  mimeType : Option String
  deriving DecidableEq

/-- No body. -/
def Body.none : Body := ⟨Option.none, Option.none⟩

/-- A text that is there and not empty. -/
def nonempty? (text : Option String) : Option String := text.filter (!·.isEmpty)

/-- The declared media type, or that of the headers. -/
def mimeTypeOf (declared : Option String) (headers : List Header) : Option String :=
  (nonempty? declared).or (header? headers "content-type")

/-- **The body of a request.** -/
def Request.body (r : Request) : Body :=
  match r.postData with
  | .none => Body.none
  | some data =>
    match nonempty? data.text with
    | .none => Body.none
    | some text => ⟨some text, mimeTypeOf data.mimeType r.headers⟩

/-- Why encoded bytes are no text. -/
inductive DecodingError where
  /-- The encoding is malformed. -/
  | encoding (e : Base64.Error)
  /-- The bytes are not UTF-8. -/
  | bytes (fault : Utf8.Fault)
  deriving DecidableEq

/-- The text of an error. -/
def DecodingError.message : DecodingError → String
  | .encoding e => e.message
  | .bytes fault => fault.message

/-- The text that base 64 stands for. -/
def decodedText (text : String) : Except DecodingError String :=
  match Base64.decode text with
  | .error e => .error (.encoding e)
  | .ok bytes =>
    match Utf8.decode bytes with
    | .error fault => .error (.bytes fault)
    | .ok text => .ok text

/-- The text of a content, decoded where it is encoded. -/
def Content.decoded (c : Content) (text : String) : Except DecodingError String :=
  if c.encoding = some "base64" then decodedText text else .ok text

/-- **The body of a response.** -/
def Response.body (r : Response) : Except DecodingError Body :=
  match r.content with
  | .none => .ok Body.none
  | some content =>
    match nonempty? content.text with
    | .none => .ok Body.none
    | some text =>
      match content.decoded text with
      | .error e => .error e
      | .ok text => .ok ⟨some text, mimeTypeOf content.mimeType r.headers⟩

end TypedTraffic
