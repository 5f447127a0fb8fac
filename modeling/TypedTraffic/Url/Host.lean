import TypedTraffic.Text.Numeral
import TypedTraffic.Text.Split
import TypedTraffic.Text.Quoted

/-!
# Hosts in brackets and hosts beyond ASCII

A host in brackets has to be an IPv6 address, or an address of a later
version (`v`, hexadecimal digits, a point, anything). A host with
characters beyond ASCII must not turn into something with a delimiter of
URLs in it when compatibility characters are replaced by plain ones.
-/

namespace TypedTraffic.Url

open Text

/-- Why a URL is not read. -/
inductive Error where
  /-- Brackets do not match, or text stands beside them. -/
  | brackets
  /-- An address of a later version is malformed. -/
  | futureAddress
  /-- The host in brackets is no address. -/
  | notAddress (host : String)
  /-- The host in brackets is an address without colons. -/
  | dottedAddress
  /-- The host hides a delimiter of URLs in a compatibility character. -/
  | hiddenDelimiter (authority : String)
  deriving DecidableEq

/-- The text of an error. -/
def Error.message : Error → String
  | .brackets => "Invalid IPv6 URL"
  | .futureAddress => "IPvFuture address is invalid"
  | .notAddress host => quoted host ++ " does not appear to be an IPv4 or IPv6 address"
  | .dottedAddress => "An IPv4 address cannot be in brackets"
  | .hiddenDelimiter authority =>
    "netloc '" ++ authority ++ "' contains invalid characters under NFKC normalization"

/-- Whether a text is a number of a dotted address: at most 255, written
without leading zeros. -/
def isOctet (cs : List Char) : Bool :=
  !cs.isEmpty && cs.all Char.isDigit && cs.length ≤ 3
    && (cs.length == 1 || cs.head? != some '0')
    && numeral 10 cs ≤ 255

/-- Whether a text is an address of four numbers. -/
def isDottedAddress (cs : List Char) : Bool :=
  let octets := split '.' cs
  octets.length == 4 && octets.all isOctet

/-- Whether a text is one to four hexadecimal digits. -/
def isGroup (cs : List Char) : Bool := !cs.isEmpty && cs.all isHex && cs.length ≤ 4

/-- Whether the pieces between colons are an IPv6 address: eight groups,
or fewer with one run of zeros left out, which is an empty piece between
the ends, and with an end that is empty only next to that run. -/
def areGroups (pieces : List (List Char)) : Bool :=
  let inner := pieces.drop 1 |>.dropLast
  match inner.filter List.isEmpty with
  | [] => pieces.length == 8 && pieces.all isGroup
  | [_] =>
    let front := pieces.headD [] :: inner.takeWhile (!·.isEmpty)
    let back := (inner.dropWhile (!·.isEmpty)).drop 1 ++ [pieces.getLastD []]
    let ends (groups : List (List Char)) : Bool := groups == [[]] || groups.all isGroup
    let count (groups : List (List Char)) : Nat := if groups == [[]] then 0 else groups.length
    ends front && ends back && count front + count back ≤ 7
  | _ => false

/-- The pieces of an IPv6 address, with a dotted address at the end
counted as the two groups it stands for. -/
def addressPieces (cs : List Char) : List (List Char) :=
  let pieces := split ':' cs
  let last := pieces.getLastD []
  if isDottedAddress last then pieces.dropLast ++ [['0'], ['0']] else pieces

/-- Whether a text is an IPv6 address, with or without a zone behind a
percent sign. -/
def isColonAddress (cs : List Char) : Bool :=
  let (address, zone) := cut '%' cs
  let zoned : Bool :=
    match zone with
    | none => true
    | some z => !z.isEmpty && '%' ∉ z
  zoned && 3 ≤ (split ':' address).length && (addressPieces address).length ≤ 9
    && areGroups (addressPieces address)

/-- Whether a text is an address of a later version. -/
def isFutureAddress (cs : List Char) : Bool :=
  let (version, name) := cut '.' (cs.drop 1)
  !version.isEmpty && version.all isHex && (name.getD []) != []

/-- The fault of a host that stands in brackets. -/
def hostFault? (host : List Char) : Option Error :=
  if host.head? = some 'v' then if isFutureAddress host then none else some .futureAddress
  else if isDottedAddress host then some .dottedAddress
  else if isColonAddress host then none
  else some (.notAddress (String.ofList host))

/-- The part behind the last `@`. -/
def hostAndPort (authority : List Char) : List Char :=
  (authority.reverse.takeWhile (· != '@')).reverse

/-- The fault of the brackets of an authority. -/
def bracketFault? (authority : List Char) : Option Error :=
  let opening := '[' ∈ authority
  let closing := ']' ∈ authority
  if ¬opening ∧ ¬closing then none
  else if ¬(opening ∧ closing) then some .brackets
  else
    let place := hostAndPort authority
    match cut '[' place with
    | ([], some bracketed) =>
      match cut ']' bracketed with
      | (host, none) => hostFault? host
      | (host, some []) => hostFault? host
      | (host, some (c :: _)) => if c = ':' then hostFault? host else some .brackets
    | (_, some _) => some .brackets
    | (_, none) => hostFault? (cut ':' place).1

/-- The characters whose plain replacement contains one of `/?#@:`. -/
def delimiterLookalikes : List Nat :=
  [0x2047, 0x2048, 0x2049, 0x2100, 0x2101, 0x2105, 0x2106, 0x2A74, 0xFE13, 0xFE16, 0xFE55,
   0xFE56, 0xFE5F, 0xFE6B, 0xFF03, 0xFF0F, 0xFF1A, 0xFF1F, 0xFF20]

/-- The fault of an authority with a delimiter hidden in it. -/
def lookalikeFault? (authority : List Char) : Option Error :=
  if authority.any fun c => delimiterLookalikes.contains c.toNat then
    some (.hiddenDelimiter (String.ofList authority))
  else none

end TypedTraffic.Url
