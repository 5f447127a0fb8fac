import TypedTraffic.Url.Host
import TypedTraffic.Text.Casing

/-!
# URLs

A URL is cut from the left: the scheme at the first colon, the authority
behind two slashes, the fragment at the first `#`, the query at the first
`?`, and, for schemes that know parameters, the parameters at the first
semicolon of the last path segment. Leading controls and blanks, and
tabs and line ends anywhere, are not part of a URL.
-/

namespace TypedTraffic

open Text

/-- **The parts of a URL.** -/
structure Url where
  /-- The scheme, in lower case. -/
  scheme : String
  /-- Host, port and user, as written. -/
  authority : String
  /-- The path, without the parameters of its last segment. -/
  path : String
  /-- The parameters of the last segment. -/
  parameters : String
  /-- The query. -/
  query : String
  /-- The fragment. -/
  fragment : String
  deriving DecidableEq

namespace Url

/-- The characters of a URL that count. -/
def cleaned (cs : List Char) : List Char :=
  (cs.dropWhile fun c => c.toNat ≤ 0x20).filter fun c => c != '\t' && c != '\r' && c != '\n'

/-- The characters of a scheme. -/
def isSchemeChar (c : Char) : Bool := isAlphanumeric c || c == '+' || c == '-' || c == '.'

/-- Whether a text is a scheme. -/
def isScheme : List Char → Bool
  | [] => false
  | c :: cs => c.isAlpha && cs.all isSchemeChar

/-- The scheme, in lower case, and what follows its colon. -/
def splitScheme (cs : List Char) : List Char × List Char :=
  match cut ':' cs with
  | (scheme, some rest) => if isScheme scheme then (scheme.map Char.toLower, rest) else ([], cs)
  | (_, none) => ([], cs)

/-- The characters that end an authority. -/
def endsAuthority (c : Char) : Bool := c == '/' || c == '?' || c == '#'

/-- The authority behind two slashes and what follows it. -/
def splitAuthority (cs : List Char) : List Char × List Char :=
  match cs with
  | '/' :: '/' :: rest => rest.span fun c => !endsAuthority c
  | cs => ([], cs)

/-- The schemes whose last path segment may have parameters. -/
def schemesWithParameters : List String :=
  ["", "ftp", "hdl", "prospero", "http", "imap", "https", "shttp", "rtsp", "rtsps", "rtspu",
   "sip", "sips", "mms", "sftp", "tel"]

/-- The path up to the last slash, and the segment behind it. -/
def splitLastSegment (path : List Char) : List Char × List Char :=
  let segment := (path.reverse.takeWhile (· != '/')).reverse
  (path.take (path.length - segment.length), segment)

/-- The path without the parameters of its last segment, and these. -/
def splitParameters (path : List Char) : List Char × List Char :=
  let (folder, segment) := splitLastSegment path
  let (name, parameters) := cut ';' segment
  (folder ++ name, parameters.getD [])

/-- **Read a URL.** -/
def parse (s : String) : Except Error Url :=
  let (scheme, rest) := splitScheme (cleaned s.toList)
  let (authority, rest) := splitAuthority rest
  let (rest, fragment) := cut '#' rest
  let (whole, query) := cut '?' rest
  match (bracketFault? authority).or (lookalikeFault? authority) with
  | some fault => .error fault
  | none =>
    let (path, parameters) :=
      if schemesWithParameters.contains (String.ofList scheme) then splitParameters whole
      else (whole, [])
    .ok
      { scheme := String.ofList scheme
        authority := String.ofList authority
        path := String.ofList path
        parameters := String.ofList parameters
        query := String.ofList (query.getD [])
        fragment := String.ofList (fragment.getD []) }

/-- Whether a URL has a scheme and an authority. -/
def isAbsolute (u : Url) : Bool := !u.scheme.isEmpty && !u.authority.isEmpty

/-- Scheme and authority, as a client puts them in front of a path. -/
def origin (u : Url) : String := u.scheme ++ "://" ++ u.authority

/-- The path, the root path if there is none. -/
def pathOrRoot (u : Url) : String := if u.path.isEmpty then "/" else u.path

/-- The segments of the path that are not empty. -/
def segments (u : Url) : List (List Char) :=
  (split '/' u.path.toList).filter (!·.isEmpty)

end Url

/-- **Whether a text is an absolute URL.** -/
def isAbsoluteUrl (s : String) : Bool :=
  match Url.parse s with
  | .ok u => u.isAbsolute
  | .error _ => false

end TypedTraffic
