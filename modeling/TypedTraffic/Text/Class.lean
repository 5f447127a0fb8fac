import TypedTraffic.Text.Table.Word
import TypedTraffic.Text.Table.Digit
import TypedTraffic.Text.Table.Hidden

/-!
# Classes of characters

Word characters, decimal digits, blanks and printable characters, over
all of Unicode. Each class is decided by a rule below U+0080, which is
what names of the generated program are made of, and by a table above.
-/

namespace TypedTraffic.Text

/-- Whether a code point is in the class that begins outside and changes
at each of `changes`, starting from the membership `inside`. -/
def insideAfter : List Nat → Nat → Bool → Bool
  | [], _, inside => inside
  | change :: changes, n, inside =>
    if n < change then inside else insideAfter changes n (!inside)

/-- Membership in a class given by its changes. -/
def inClass (changes : List Nat) (c : Char) : Bool := insideAfter changes c.toNat false

/-- `[A-Za-z0-9]`. -/
def isAlphanumeric (c : Char) : Bool := c.isAlpha || c.isDigit

/-- `[A-Za-z0-9_]`: the characters of a name in the generated program. -/
def isNameChar (c : Char) : Bool := isAlphanumeric c || c == '_'

/-- **A word character**: a letter, a numeral or the underscore. -/
def isWord (c : Char) : Bool :=
  if c.toNat < 128 then isNameChar c else inClass Table.wordChanges c

/-- **A decimal digit** of any script. -/
def isDecimal (c : Char) : Bool :=
  if c.toNat < 128 then c.isDigit else inClass Table.digitChanges c

/-- **A blank**: white space, line ends and the four information
separators. -/
def isBlank (c : Char) : Bool :=
  let n := c.toNat
  (9 ≤ n && n ≤ 13) || (28 ≤ n && n ≤ 32) || n == 0x85 || n == 0xA0 || n == 0x1680
    || (0x2000 ≤ n && n ≤ 0x200A) || n == 0x2028 || n == 0x2029 || n == 0x202F
    || n == 0x205F || n == 0x3000

/-- **A printable character**: one that a quoted text shows as it is. -/
def isPrintable (c : Char) : Bool :=
  if c.toNat < 128 then 32 ≤ c.toNat && c.toNat < 127 else !inClass Table.hiddenChanges c

/-- The value of an ASCII hexadecimal digit. -/
def hexValue? (c : Char) : Option Nat :=
  if '0' ≤ c ∧ c ≤ '9' then some (c.toNat - 48)
  else if 'a' ≤ c ∧ c ≤ 'f' then some (c.toNat - 87)
  else if 'A' ≤ c ∧ c ≤ 'F' then some (c.toNat - 55)
  else none

/-- Whether a character is an ASCII hexadecimal digit. -/
def isHex (c : Char) : Bool := (hexValue? c).isSome

/-- The lower-case digit of a value below 36. -/
def digitChar (n : Nat) : Char := if n < 10 then Char.ofNat (48 + n) else Char.ofNat (87 + n)

/-- `n` in hexadecimal, padded with zeros to at least `width` digits. -/
def hexPadded (width n : Nat) : List Char :=
  let digits := Nat.toDigits 16 n
  List.replicate (width - digits.length) '0' ++ digits

/-- `n` in decimal, padded with zeros to at least `width` digits. -/
def decimalPadded (width n : Nat) : List Char :=
  let digits := Nat.toDigits 10 n
  List.replicate (width - digits.length) '0' ++ digits

theorem isWord_of_isNameChar {c : Char} (h : isNameChar c = true) (hc : c.toNat < 128) :
    isWord c = true := by
  simp [isWord, hc, h]

end TypedTraffic.Text
