import TypedTraffic.Text.Class
import TypedTraffic.Text.Split
import TypedTraffic.Ordered

/-!
# The canonical text of a definition

Two definitions of one shape differ only in the names they declare. The
**canonical text** forgets these names: runs of blanks become one space,
a reference to the `i`-th declared name becomes `#i`, and the name
behind a declaring keyword is erased.

All of it is said over **tokens**: a maximal run of word characters is
one token, every other character is a token of its own. A declaration is
a keyword token, blanks, and the token of the name.
-/

namespace TypedTraffic.Canonical

open Text Ordered

/-- A token of a definition's text. -/
inductive Token where
  /-- A maximal run of word characters. -/
  | word (chars : List Char)
  /-- A character that is no word character. -/
  | mark (char : Char)
  deriving DecidableEq

/-- The characters of a token. -/
def Token.chars : Token → List Char
  | .word cs => cs
  | .mark c => [c]

/-- Put a character in front of a list of tokens. -/
def Token.push (c : Char) (ts : List Token) : List Token :=
  if isWord c then
    match ts with
    | .word cs :: rest => .word (c :: cs) :: rest
    | ts => .word [c] :: ts
  else .mark c :: ts

/-- **The tokens of a text.** -/
def tokens (cs : List Char) : List Token := cs.foldr Token.push []

/-- The text of a list of tokens. -/
def charsOf (ts : List Token) : List Char := ts.flatMap Token.chars

/-- Nothing is lost in tokens. -/
theorem charsOf_tokens (cs : List Char) : charsOf (tokens cs) = cs := by
  induction cs with
  | nil => rfl
  | cons c cs ih =>
    have hp : ∀ ts, charsOf (Token.push c ts) = c :: charsOf ts := by
      intro ts
      unfold Token.push
      split
      · split <;> simp [charsOf, Token.chars]
      · simp [charsOf, Token.chars]
    rw [tokens, List.foldr_cons, hp]
    exact congrArg (c :: ·) ih

/-- The words that start a declaration. -/
def isKeyword (cs : List Char) : Bool := cs == "interface".toList || cs == "type".toList

/-- **The names declared in a list of tokens**, with repetitions: each
word that follows a keyword after one blank or more. `pending` tells
whether a keyword came last, and whether a blank followed it. -/
def declarations : Option Bool → List Token → List (List Char)
  | _, [] => []
  | some true, .word name :: ts => name :: declarations none ts
  | _, .word cs :: ts => declarations (if isKeyword cs then some false else none) ts
  | pending, .mark c :: ts =>
    declarations (if Text.isBlank c then pending.map fun _ => true else none) ts

/-- **The names a text declares**, in order of first declaration. -/
def declaredNames (text : String) : List String :=
  distinct ((declarations none (tokens text.toList)).map String.ofList)

/-- Every run of blanks as one space; `afterBlank` tells whether a blank
came last. -/
def collapseBlanks : Bool → List Char → List Char
  | _, [] => []
  | afterBlank, c :: cs =>
    if Text.isBlank c then
      if afterBlank then collapseBlanks true cs else ' ' :: collapseBlanks true cs
    else c :: collapseBlanks false cs

/-- A text without the spaces at its ends. -/
def trimSpaces (cs : List Char) : List Char :=
  dropEndWhile (· == ' ') (cs.dropWhile (· == ' '))

/-- The placeholder for the `i`-th declared name. -/
def placeholder (i : Nat) : List Token := [.mark '#', .word (Nat.toDigits 10 i)]

/-- Every reference to `name` replaced by the placeholder of `i`. -/
def replaceName (name : List Char) (i : Nat) (ts : List Token) : List Token :=
  ts.flatMap fun t => if t = .word name then placeholder i else [t]

/-- The placeholders of several names, numbered from `i`. -/
def replaceNames : Nat → List (List Char) → List Token → List Token
  | _, [], ts => ts
  | i, name :: names, ts => replaceNames (i + 1) names (replaceName name i ts)

/-- The digits at the start of a word taken off, if there are any. -/
def withoutIndex? (w : List Char) : Option (List Char) :=
  if (w.takeWhile isDecimal).isEmpty then none else some (w.dropWhile isDecimal)

/-- The token behind an erased name: one space goes with the name. -/
def skipSpace : List Token → List Token
  | .mark ' ' :: ts => ts
  | ts => ts

theorem length_skipSpace_le (ts : List Token) : (skipSpace ts).length ≤ ts.length := by
  unfold skipSpace
  split <;> simp

/-- **Erase the names of declarations**: behind a keyword, a space and a
`#`, the digits and one space after them go. -/
def eraseDeclared : List Token → List Char
  | .word k :: .mark ' ' :: .mark '#' :: .word w :: ts =>
    match isKeyword k, withoutIndex? w with
    | true, some [] => k ++ ' ' :: eraseDeclared (skipSpace ts)
    | true, some rest => k ++ ' ' :: rest ++ eraseDeclared ts
    | _, _ => k ++ eraseDeclared (.mark ' ' :: .mark '#' :: .word w :: ts)
  | t :: ts => t.chars ++ eraseDeclared ts
  | [] => []
  termination_by ts => ts.length
  decreasing_by
    all_goals simp only [List.length_cons]
    · have := length_skipSpace_le ts
      omega
    all_goals omega

/-- **The canonical text of a definition.** -/
def canonical (text : String) : String :=
  let collapsed := trimSpaces (collapseBlanks false text.toList)
  let names := distinct (declarations none (tokens collapsed))
  String.ofList (eraseDeclared (replaceNames 0 names (tokens collapsed)))

end TypedTraffic.Canonical
