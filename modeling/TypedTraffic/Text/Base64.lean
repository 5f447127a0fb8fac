/-!
# Base 64

Reading is forgiving: characters outside the alphabet are passed over,
and what follows the padding of a complete group is not read. Only
characters beyond ASCII, a single data character left over and missing
padding are errors.
-/

namespace TypedTraffic.Text.Base64

/-- Why a text is not read. -/
inductive Error where
  /-- A character is not an ASCII character. -/
  | notAscii
  /-- One data character is left over, the last of `count`. -/
  | leftOver (count : Nat)
  /-- The last group is not padded. -/
  | padding
  deriving DecidableEq

/-- The text of an error. -/
def Error.message : Error → String
  | .notAscii => "string argument should contain only ASCII characters"
  | .leftOver count =>
    "Invalid base64-encoded string: number of data characters (" ++ toString count
      ++ ") cannot be 1 more than a multiple of 4"
  | .padding => "Incorrect padding"

/-- The value of a data character. -/
def dataValue? (c : Char) : Option Nat :=
  if c.isUpper then some (c.toNat - 65)
  else if c.isLower then some (c.toNat - 71)
  else if c.isDigit then some (c.toNat + 4)
  else if c = '+' then some 62
  else if c = '/' then some 63
  else none

/-- How far reading has come. -/
structure Progress where
  /-- The data characters of the open group, three at most. -/
  filled : Nat
  /-- The bits of the open group that are not in a byte yet. -/
  carried : Nat
  /-- The padding characters since the last data character. -/
  pads : Nat
  /-- The bytes read, last one first. -/
  bytes : List UInt8

/-- The progress with one data character more. -/
def Progress.push (p : Progress) (v : Nat) : Progress :=
  match p.filled with
  | 0 => ⟨1, v, 0, p.bytes⟩
  | 1 => ⟨2, v % 16, 0, UInt8.ofNat (p.carried * 4 + v / 16) :: p.bytes⟩
  | 2 => ⟨3, v % 4, 0, UInt8.ofNat (p.carried * 16 + v / 4) :: p.bytes⟩
  | _ => ⟨0, 0, 0, UInt8.ofNat (p.carried * 64 + v) :: p.bytes⟩

/-- The bytes at the end of the text. -/
def Progress.finish (p : Progress) : Except Error (List UInt8) :=
  match p.filled with
  | 0 => .ok p.bytes.reverse
  | 1 => .error (.leftOver (p.bytes.length / 3 * 4 + 1))
  | _ => .error .padding

/-- Read on. -/
def readFrom : Progress → List Char → Except Error (List UInt8)
  | p, [] => p.finish
  | p, c :: cs =>
    if c = '=' then
      if 2 ≤ p.filled then
        if 4 ≤ p.filled + (p.pads + 1) then .ok p.bytes.reverse
        else readFrom { p with pads := p.pads + 1 } cs
      else readFrom p cs
    else
      match dataValue? c with
      | some v => readFrom (p.push v) cs
      | none => readFrom p cs

/-- **The bytes a text stands for.** -/
def decode (s : String) : Except Error (List UInt8) :=
  if s.toList.all (·.toNat < 128) then readFrom ⟨0, 0, 0, []⟩ s.toList else .error .notAscii

end TypedTraffic.Text.Base64
