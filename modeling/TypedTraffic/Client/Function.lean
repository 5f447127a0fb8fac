import TypedTraffic.Client.Literal
import TypedTraffic.Session.Binding

/-!
# The function of a binding
-/

namespace TypedTraffic.Client

/-- The line that sends a header along. -/
def headerLine (h : Header) : String :=
  "      " ++ quotedLiteral h.name ++ ": " ++ quotedLiteral h.value ++ ","

/-- The lines of a function before its headers. -/
def functionHead (b : Binding) : List String :=
  ["/**",
   " * " ++ b.method ++ " " ++ commentText b.path,
   " */",
   "export async function " ++ b.functionName ++ "(",
   "  params?: " ++ b.paramsType ++ ",",
   "  body?: " ++ b.bodyType ++ ",",
   "  options: ApiOptions = \x7b\x7d",
   "): Promise<" ++ b.responseType ++ "> \x7b",
   "  const \x7b baseUrl = " ++ quotedLiteral b.origin
     ++ ", headers = \x7b\x7d, ...fetchOptions \x7d = \x7b ...defaultOptions, ...options \x7d;",
   "  const query = params ? `?$\x7bqs.stringify(params)\x7d` : '';",
   "  const requestUrl = `$\x7bbaseUrl\x7d" ++ templateText b.path ++ "$\x7bquery\x7d`;",
   "",
   "  const response = await fetch(requestUrl, \x7b",
   "    method: " ++ quotedLiteral b.method ++ ",",
   "    headers: \x7b",
   "      ...headers,"]

/-- The lines of a function behind its headers. -/
def functionTail (b : Binding) : List String :=
  ["    \x7d,"] ++ (if b.hasBody then ["    body: JSON.stringify(body),"] else []) ++
  ["    ...fetchOptions,",
   "  \x7d);",
   "",
   "  if (!response.ok) \x7b",
   "    throw new Error(`HTTP error! status: $\x7bresponse.status\x7d`);",
   "  \x7d",
   "",
   "  return response.json();",
   "\x7d"]

/-- **The lines of the function of a binding.** -/
def functionLines (b : Binding) : List String :=
  functionHead b ++ b.headers.map headerLine ++ functionTail b

end TypedTraffic.Client
