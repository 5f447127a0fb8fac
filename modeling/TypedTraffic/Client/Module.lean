import TypedTraffic.Client.Function
import TypedTraffic.Moment
import TypedTraffic.Text.Split

/-!
# The generated module

The module opens with a stamp and a preamble, exports every declaration
of the definitions and ends with one function for each binding.
-/

namespace TypedTraffic.Client

/-- The lines every module starts with, behind its stamp. -/
def preambleLines : List String :=
  ["import * as qs from 'qs';",
   "",
   "export type RequestInit = Parameters<typeof fetch>[1];",
   "export type RequestInfo = Parameters<typeof fetch>[0];",
   "export type Response = ReturnType<typeof fetch> extends Promise<infer T> ? T : never;",
   "",
   "export interface ApiOptions extends Omit<RequestInit, 'body' | 'method'> \x7b",
   "  baseUrl?: string;",
   "  headers?: HeadersInit;",
   "\x7d",
   "",
   "export const defaultOptions: ApiOptions = \x7b",
   "  headers: \x7b",
   "    'Content-Type': 'application/json',",
   "  \x7d,",
   "\x7d;",
   "",
   "export interface ResponseBase<T = unknown> \x7b",
   "  data?: T;",
   "\x7d",
   ""]

/-- A line with `export` in front if a declaration starts on it. -/
def exportedLine (line : List Char) : List Char :=
  if "interface ".toList.isPrefixOf line || "type ".toList.isPrefixOf line then
    "export ".toList ++ line
  else line

/-- **A definition with its declarations exported.** -/
def exported (definition : String) : String :=
  String.ofList
    (Text.join ['\n'] ((Text.split '\n' definition.toList).map exportedLine))

/-- The lines of a module, definitions counting as one line each. -/
def moduleLines (stamp : String) (definitions : List String) (bindings : List Binding) :
    List String :=
  ["// Generated TypeScript SDK", "// Generated on: " ++ stamp, ""] ++ preambleLines
    ++ definitions.flatMap (fun definition => [exported definition, ""])
    ++ bindings.flatMap (fun b => functionLines b ++ [""])

/-- **The text of a module.** -/
def moduleText (stamp : String) (definitions : List String) (bindings : List Binding) :
    String :=
  let text := "\n".intercalate (moduleLines stamp definitions bindings)
  String.ofList (Text.dropEndWhile (· == '\n') text.toList ++ ['\n'])

end TypedTraffic.Client
