/-!
# Code points

An escape in a JSON string may name half of a surrogate pair on its own,
which no character is. Keys and values of a JSON document are therefore
lists of **code points**: characters and lone surrogates alike, so that
two keys that differ only in a lone surrogate stay different keys.

A text made of characters alone embeds without loss (`ofChar_injective`,
`codePoints_injective`).
-/

namespace TypedTraffic

/-- **A code point**: the number of a character or of a surrogate. -/
structure CodePoint where
  /-- The number. -/
  val : Nat
  /-- Code points end at U+10FFFF. -/
  lt : val < 0x110000
  deriving DecidableEq

/-- A character has the number it is made from. -/
theorem toNat_charOfNat {n : Nat} (h : n.isValidChar) : (Char.ofNat n).toNat = n := by
  rw [Char.ofNat, dif_pos h]
  rfl

namespace CodePoint

/-- Every character is a code point. -/
def ofChar (c : Char) : CodePoint :=
  ⟨c.toNat, by
    have h := c.valid
    simp only [UInt32.isValidChar, Nat.isValidChar, Char.toNat] at *
    omega⟩

/-- The code point with a given number; numbers beyond the last one give
the replacement character. -/
def ofNat (n : Nat) : CodePoint :=
  if h : n < 0x110000 then ⟨n, h⟩ else ⟨0xFFFD, by decide⟩

/-- The character a code point names, the replacement character for a
lone surrogate. -/
def toChar (p : CodePoint) : Char :=
  if p.val.isValidChar then Char.ofNat p.val else '\uFFFD'

/-- Whether the code point is the first half of a surrogate pair. -/
def isLeading (p : CodePoint) : Bool := 0xD800 ≤ p.val && p.val < 0xDC00

/-- Whether the code point is the second half of a surrogate pair. -/
def isTrailing (p : CodePoint) : Bool := 0xDC00 ≤ p.val && p.val < 0xE000

/-- The character a surrogate pair stands for. -/
def pair (leading trailing : CodePoint) : CodePoint :=
  ofNat (0x10000 + (leading.val - 0xD800) * 0x400 + (trailing.val - 0xDC00))

theorem ofChar_injective {a b : Char} (h : ofChar a = ofChar b) : a = b := by
  have hv : a.toNat = b.toNat := congrArg CodePoint.val h
  exact Char.toNat_inj.mp hv

@[simp] theorem val_ofChar (c : Char) : (ofChar c).val = c.toNat := rfl

@[simp] theorem toChar_ofChar (c : Char) : (ofChar c).toChar = c := by
  have h : c.toNat.isValidChar := c.valid
  simp [toChar, h]

/-- A code point with the number of a character is that character. -/
theorem ofChar_toChar {p : CodePoint} (h : p.val.isValidChar) : ofChar p.toChar = p := by
  have hval : p.toChar.toNat = p.val := by rw [toChar, if_pos h, toNat_charOfNat h]
  obtain ⟨n, hn⟩ := p
  rwa [ofChar, mk.injEq]

end CodePoint

/-- The code points of a text. -/
def codePoints (s : String) : List CodePoint := s.toList.map CodePoint.ofChar

/-- The text of a list of code points, with the replacement character at
each lone surrogate. -/
def textOf (points : List CodePoint) : String := String.ofList (points.map CodePoint.toChar)

theorem codePoints_injective {a b : String} (h : codePoints a = codePoints b) : a = b := by
  have inj : ∀ {l m : List Char}, l.map CodePoint.ofChar = m.map CodePoint.ofChar → l = m := by
    intro l
    induction l with
    | nil => intro m hm; cases m <;> simp_all
    | cons c l ih =>
      intro m hm
      cases m with
      | nil => simp at hm
      | cons d m =>
        simp only [List.map_cons, List.cons.injEq] at hm
        rw [CodePoint.ofChar_injective hm.1, ih hm.2]
  exact String.toList_inj.mp (inj h)

end TypedTraffic
