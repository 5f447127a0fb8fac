/-!
# Similar texts

What two texts have in common is counted from the longest run of
characters that stands in both. The run counts, and so does what the texts
in front of it have in common, and the texts behind it. Texts are similar
if this is three fifths of their characters or more.
-/

namespace TypedTraffic.Text

/-- A run of characters that stands in two texts. -/
structure SharedRun where
  /-- Where it starts in the one text. -/
  left : Nat
  /-- Where it starts in the other. -/
  right : Nat
  /-- How long it is. -/
  length : Nat

/-- The number of characters that two texts start with in common. -/
def sharedStart : List Char → List Char → Nat
  | a :: as, b :: bs => if a = b then sharedStart as bs + 1 else 0
  | _, _ => 0

/-- The runs that stand in two texts, one for every pair of places. -/
def sharedRuns (as bs : List Char) : List SharedRun :=
  (List.range as.length).flatMap fun i => (List.range bs.length).map fun j =>
    ⟨i, j, sharedStart (as.drop i) (bs.drop j)⟩

/-- The longer one of two runs, the first one if neither is longer. -/
def SharedRun.longer (r s : SharedRun) : SharedRun := if r.length < s.length then s else r

/-- The longest run that stands in two texts, the first one of that
length. -/
def longestRun (as bs : List Char) : SharedRun :=
  (sharedRuns as bs).foldl SharedRun.longer ⟨0, 0, 0⟩

/-- How many characters two texts have in common, going around at most
`fuel` runs deep. -/
def sharedWithin : Nat → List Char → List Char → Nat
  | 0, _, _ => 0
  | fuel + 1, as, bs =>
    let run := longestRun as bs
    if run.length = 0 then 0
    else
      sharedWithin fuel (as.take run.left) (bs.take run.right) + run.length
        + sharedWithin fuel (as.drop (run.left + run.length)) (bs.drop (run.right + run.length))

/-- **How many characters two texts have in common.** The texts around a
run are shorter than the whole, so the length of the text bounds the
depth. -/
def sharedCount (as bs : List Char) : Nat := sharedWithin as.length as bs

/-- **Whether a text is similar to a word.** A text much shorter or much
longer than the word is not. -/
def isSimilar (word text : List Char) : Bool :=
  let total := text.length + word.length
  3 * total ≤ 10 * min text.length word.length && 3 * total ≤ 10 * sharedCount text word

/-- Whether the first one of two texts is the same or stands before the
other in the order of characters. -/
def isAtMost (s t : List Char) : Bool := !t.lex s

/-- Whether the first one of two texts has no smaller share in common with
a word; of two texts with the same share it is the greater one. -/
def isAtLeastAsSimilar (word s t : List Char) : Bool :=
  let sShare := sharedCount s word * (t.length + word.length)
  let tShare := sharedCount t word * (s.length + word.length)
  tShare < sShare || (tShare == sShare && isAtMost t s)

/-- **The names that a mistyped name may stand for**: the three most
similar ones, in order. -/
def suggestions (names : List String) (word : String) : List String :=
  let cs := word.toList
  let similar := (names.map String.toList).filter (isSimilar cs)
  let closest := (similar.mergeSort (isAtLeastAsSimilar cs)).take 3
  (closest.mergeSort isAtMost).map String.ofList

end TypedTraffic.Text
