import TypedTraffic.Capture.Basic

/-!
# Bindings

A binding is what the generated program knows of an endpoint: the
function that calls it, where it is, and the names of the types that go
in and come out.
-/

namespace TypedTraffic

/-- The type of parameters that are not known. -/
def unknownParams : String := "Record<string, string | number | boolean | undefined>"

/-- The type of the body of a function that sends none. -/
def noBody : String := "undefined"

/-- The type of a response of which nothing is known. -/
def unknownResponse : String := "ResponseBase<unknown>"

/-- The type of a response with data of a named type. -/
def responseOf (name : String) : String := "ResponseBase<" ++ name ++ ">"

/-- **A binding.** -/
structure Binding where
  /-- The name of the function. -/
  functionName : String
  /-- The method. -/
  method : String
  /-- Scheme and authority. -/
  origin : String
  /-- The path. -/
  path : String
  /-- The type of the query parameters. -/
  paramsType : String
  /-- The type of the request body. -/
  bodyType : String
  /-- The type of the response. -/
  responseType : String
  /-- The headers that are sent along. -/
  headers : List Header
  deriving DecidableEq

/-- Whether the function sends a body. -/
def Binding.hasBody (b : Binding) : Bool := b.bodyType != noBody

end TypedTraffic
