import TypedTraffic.Capture.Body
import TypedTraffic.Declaration.Registry
import TypedTraffic.Form
import TypedTraffic.Json.Reader
import TypedTraffic.Terminal.Markup

/-!
# Notices

What goes wrong with one sample does not stop a run: the sample leads to
a permissive type or is passed over, and a notice says so. A notice is
printed on a line of its own.
-/

namespace TypedTraffic

/-- Why the response of an exchange is passed over. -/
inductive ResponseFailure where
  /-- Its body is no text. -/
  | undecodable (e : DecodingError)
  /-- Its type is refused. -/
  | refused (e : RegistryError)
  deriving DecidableEq

/-- The text of a failure. -/
def ResponseFailure.message : ResponseFailure → String
  | .undecodable e => e.message
  | .refused e => e.message

/-- **A notice.** -/
inductive Notice where
  /-- A form has to be text. -/
  | formNotText (name : String)
  /-- A form is malformed. -/
  | malformedForm (name : String) (e : Form.Error)
  /-- A text is neither JSON nor a form. -/
  | neitherFormat (name : String) (e : Json.Error)
  /-- The root of a sample is no object. -/
  | rootNotObject (name : String)
  /-- A sample is nested too deeply. -/
  | nestedTooDeeply (name : String)
  /-- The body of a request is passed over. -/
  | requestPassedOver (url : String) (e : RegistryError)
  /-- The body of a response is passed over. -/
  | responsePassedOver (url : String) (e : ResponseFailure)
  deriving DecidableEq

/-- The text of a notice. -/
def Notice.message : Notice → String
  | .formNotText name => "Form data for " ++ name ++ " is not text, fallback to 'any'"
  | .malformedForm name e =>
    "Failed to generate type for form data " ++ name ++ ": " ++ e.message
  | .neitherFormat name e =>
    "Failed to generate type for " ++ name ++ " as both JSON and form data (" ++ e.message
      ++ "), fallback to 'any'"
  | .rootNotObject name =>
    "Failed to generate type for " ++ name ++ ": root is not an object, fallback to 'any'"
  | .nestedTooDeeply name =>
    "Failed to generate type for " ++ name ++ ": payload nested too deeply, fallback to 'any'"
  | .requestPassedOver url e => "Failed to infer request body for " ++ url ++ ": " ++ e.message
  | .responsePassedOver url e => "Failed to parse response for " ++ url ++ ": " ++ e.message

/-- **The line of a notice.** -/
def Notice.line (notice : Notice) : String :=
  Terminal.printed
    (' ' :: ' ' :: Terminal.styled "yellow" (Terminal.escape notice.message.toList))

end TypedTraffic
