/-!
# Captured text inside the generated program

Text of a capture is put in three places of the generated program: in
quoted strings, in template strings and in comments. In each of them the
characters that would end the place, or mean something else in it, are
written in another way.
-/

namespace TypedTraffic.Client

/-- One character inside single quotes. -/
def quotedChar (c : Char) : List Char :=
  if c = '\\' then ['\\', '\\']
  else if c = '\x27' then ['\\', '\x27']
  else if c = '\n' then ['\\', 'n']
  else if c = '\r' then ['\\', 'r']
  else [c]

/-- **A text as a single-quoted string.** -/
def quotedLiteral (s : String) : String :=
  String.ofList ('\x27' :: s.toList.flatMap quotedChar ++ ['\x27'])

/-- The characters of a text inside a template string: backslashes,
backticks and the openings of substitutions are escaped. -/
def templateChars : List Char → List Char
  | '$' :: '\x7b' :: cs => '\\' :: '$' :: '\x7b' :: templateChars cs
  | '\\' :: cs => '\\' :: '\\' :: templateChars cs
  | '\x60' :: cs => '\\' :: '\x60' :: templateChars cs
  | c :: cs => c :: templateChars cs
  | [] => []

/-- **A text as part of a template string.** -/
def templateText (s : String) : String := String.ofList (templateChars s.toList)

/-- The characters of a path inside a comment: a slash that would end it
is written as an escape of URLs. -/
def commentChars : List Char → List Char
  | '*' :: '/' :: cs => '*' :: '%' :: '2' :: 'F' :: commentChars cs
  | c :: cs => c :: commentChars cs
  | [] => []

/-- **A path as part of a comment.** -/
def commentText (s : String) : String := String.ofList (commentChars s.toList)

end TypedTraffic.Client
