/-!
# UTF-8

Bytes are read one at a time. A byte starts a character or continues the
one that is open; where it can do neither, the bytes of the open
character are one fault, and the byte is looked at again. Reading lists
characters and faults in order; strict reading ends at the first fault,
lenient reading puts a replacement character in the place of each.
-/

namespace TypedTraffic.Text.Utf8

/-- What is wrong with some bytes. -/
inductive FaultKind where
  /-- The byte starts no character. -/
  | invalidStart
  /-- The next byte does not continue the character. -/
  | invalidContinuation
  /-- The text ends within the character. -/
  | unexpectedEnd
  deriving DecidableEq

/-- The words for what is wrong. -/
def FaultKind.text : FaultKind → String
  | .invalidStart => "invalid start byte"
  | .invalidContinuation => "invalid continuation byte"
  | .unexpectedEnd => "unexpected end of data"

/-- Bytes that are no character: their kind of fault, the first of them,
its position and how many there are. -/
structure Fault where
  /-- What is wrong. -/
  kind : FaultKind
  /-- The first byte. -/
  first : UInt8
  /-- The position of the first byte. -/
  start : Nat
  /-- The number of bytes. -/
  count : Nat
  deriving DecidableEq

/-- Two hexadecimal digits of a byte. -/
def byteText (b : UInt8) : String :=
  let digit (n : Nat) : Char := if n < 10 then Char.ofNat (48 + n) else Char.ofNat (87 + n)
  String.ofList ['0', 'x', digit (b.toNat / 16), digit (b.toNat % 16)]

/-- The text of a fault. -/
def Fault.message (f : Fault) : String :=
  let place :=
    if f.count = 1 then "byte " ++ byteText f.first ++ " in position " ++ toString f.start
    else "bytes in position " ++ toString f.start ++ "-" ++ toString (f.start + f.count - 1)
  "'utf-8' codec can't decode " ++ place ++ ": " ++ f.kind.text

/-- A character of which the first bytes have been read. -/
structure Opened where
  /-- The number of bytes still to come. -/
  missing : Nat
  /-- The least value of the next byte. -/
  low : Nat
  /-- The greatest value of the next byte. -/
  high : Nat
  /-- The bits read so far. -/
  value : Nat
  /-- The first byte. -/
  first : UInt8
  /-- The position of the first byte. -/
  start : Nat
  /-- The number of bytes read so far. -/
  count : Nat

/-- The fault of a character that is not completed. -/
def Opened.fault (o : Opened) (kind : FaultKind) : Fault := ⟨kind, o.first, o.start, o.count⟩

/-- A character read, or bytes that are none. -/
abbrev Item := Except Fault Char

/-- The byte at a position as the first one of a character. -/
def openAt (pos : Nat) (b : UInt8) : Item ⊕ Opened :=
  let n := b.toNat
  if n < 0x80 then .inl (.ok (Char.ofNat n))
  else if n < 0xC2 ∨ 0xF4 < n then .inl (.error ⟨.invalidStart, b, pos, 1⟩)
  else if n < 0xE0 then .inr ⟨1, 0x80, 0xBF, n - 0xC0, b, pos, 1⟩
  else if n < 0xF0 then
    .inr ⟨2, if n = 0xE0 then 0xA0 else 0x80, if n = 0xED then 0x9F else 0xBF, n - 0xE0, b, pos, 1⟩
  else
    .inr ⟨3, if n = 0xF0 then 0x90 else 0x80, if n = 0xF4 then 0x8F else 0xBF, n - 0xF0, b, pos, 1⟩

/-- Whether a byte may come next. -/
def Opened.accepts (o : Opened) (b : UInt8) : Bool := o.low ≤ b.toNat && b.toNat ≤ o.high

/-- The open character with its next byte. -/
def Opened.push (o : Opened) (b : UInt8) : Item ⊕ Opened :=
  let value := o.value * 64 + (b.toNat - 0x80)
  if o.missing ≤ 1 then .inl (.ok (Char.ofNat value))
  else .inr ⟨o.missing - 1, 0x80, 0xBF, value, o.first, o.start, o.count + 1⟩

/-- Characters and faults of the bytes from a position on. -/
def scanFrom : Nat → Option Opened → List UInt8 → List Item
  | _, none, [] => []
  | _, some o, [] => [.error (o.fault .unexpectedEnd)]
  | pos, none, b :: bs =>
    match openAt pos b with
    | .inl item => item :: scanFrom (pos + 1) none bs
    | .inr o => scanFrom (pos + 1) (some o) bs
  | pos, some o, b :: bs =>
    if o.accepts b then
      match o.push b with
      | .inl item => item :: scanFrom (pos + 1) none bs
      | .inr o => scanFrom (pos + 1) (some o) bs
    else
      .error (o.fault .invalidContinuation) ::
        match openAt pos b with
        | .inl item => item :: scanFrom (pos + 1) none bs
        | .inr o => scanFrom (pos + 1) (some o) bs

/-- **Characters and faults of a list of bytes.** -/
def scan (bytes : List UInt8) : List Item := scanFrom 0 none bytes

/-- **The text of some bytes, or the first fault.** -/
def decode (bytes : List UInt8) : Except Fault String :=
  match (scan bytes).mapM id with
  | .ok cs => .ok (String.ofList cs)
  | .error fault => .error fault

/-- The characters of some bytes, with the replacement character for each
fault. -/
def decodeLossy (bytes : List UInt8) : List Char :=
  (scan bytes).map fun
    | .ok c => c
    | .error _ => '\uFFFD'

end TypedTraffic.Text.Utf8
