import TypedTraffic.Text.Class
import TypedTraffic.Text.Table.Casing

/-!
# Upper and lower case

The full case mappings of Unicode: a character may be mapped to several,
and a capital sigma at the end of a word becomes a final sigma.
-/

namespace TypedTraffic.Text

/-- The image of a code point under the first run that holds it. -/
def shifted : List (Nat × Nat × Nat × Int) → Nat → Option Nat
  | [], _ => none
  | (first, last, step, shift) :: runs, n =>
    if first ≤ n ∧ n ≤ last ∧ (n - first) % step = 0 then some (n + shift).toNat
    else shifted runs n

/-- A character mapped by its sequence, else by its run, else to itself. -/
def mapped (sequences : List (Nat × List Nat)) (runs : List (Nat × Nat × Nat × Int))
    (c : Char) : List Char :=
  match sequences.lookup c.toNat with
  | some image => image.map Char.ofNat
  | none =>
    match shifted runs c.toNat with
    | some n => [Char.ofNat n]
    | none => [c]

/-- The lower case of one character, out of context. -/
def lowerChar (c : Char) : List Char :=
  if c.toNat < 128 then [c.toLower] else mapped Table.lowerSequences Table.lowerRuns c

/-- The upper case of one character. -/
def upperChar (c : Char) : List Char :=
  if c.toNat < 128 then [c.toUpper] else mapped Table.upperSequences Table.upperRuns c

/-- Characters a look for a neighbouring cased character passes over. -/
def isSkipped (c : Char) : Bool :=
  if c.toNat < 128 then c ∈ ['\x27', '.', ':', '^', '\x60'] else inClass Table.skippedChanges c

/-- Cased characters: letters with an upper or lower case. -/
def isCased (c : Char) : Bool :=
  if c.toNat < 128 then c.isAlpha else inClass Table.casedChanges c

/-- Whether the nearest character that counts is cased. -/
def meetsCased (cs : List Char) : Bool :=
  match cs.dropWhile isSkipped with
  | [] => false
  | c :: _ => isCased c

/-- Lower case with what precedes at hand, nearest character first: a
capital sigma after a cased character and before none is final. -/
def lowerAfter : List Char → List Char → List Char
  | _, [] => []
  | before, c :: cs =>
    (if c = 'Σ' then
      if meetsCased before && !meetsCased cs then ['ς'] else ['σ']
    else lowerChar c) ++ lowerAfter (c :: before) cs

/-- **The lower case of a text.** -/
def lower (s : String) : String := String.ofList (lowerAfter [] s.toList)

/-- **The upper case of a text.** -/
def upper (s : String) : String := String.ofList (s.toList.flatMap upperChar)

end TypedTraffic.Text
