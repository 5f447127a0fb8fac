import TypedTraffic.Number.Binary64
import TypedTraffic.Text.Numeral
import TypedTraffic.Text.Quoted
import TypedTraffic.Text.Split

/-!
# Numbers of YAML

A whole number is written in base two, eight, ten or sixteen, or as
digits of base sixty between colons; underscores group its digits. A
number with a point may have an exponent, which is signed. The shapes
(`isWhole`, `isReal`) decide what a plain scalar is; a scalar that is
tagged as a number is read whatever its shape, and may fail to be one.
-/

namespace TypedTraffic.Yaml

open Text

/-- Why a scalar does not have the value its tag asks for. -/
inductive NumberFault where
  /-- It is no whole number in a base. -/
  | notWhole (base : Nat) (text : String)
  /-- It is no number. -/
  | notReal (text : String)
  deriving DecidableEq

/-- The text of a fault. -/
def NumberFault.message : NumberFault → String
  | .notWhole base text =>
    "invalid literal for int() with base " ++ toString base ++ ": " ++ quoted text
  | .notReal text => "could not convert string to float: " ++ quoted text

/-- Whether a number has a minus sign in front, and the number behind its
sign. -/
def cutSign : List Char → Bool × List Char
  | '-' :: rest => (true, rest)
  | '+' :: rest => (false, rest)
  | rest => (false, rest)

/-! ## Shapes -/

/-- Digits of base ten and underscores. -/
def isGrouped (c : Char) : Bool := c.isDigit || c == '_'

/-- Whether a text is a digit and more grouped digits. -/
def isCount : List Char → Bool
  | c :: rest => c.isDigit && rest.all isGrouped
  | [] => false

/-- Whether a text is a digit of base sixty. -/
def isSixtieth : List Char → Bool
  | [b] => b.isDigit
  | [a, b] => '0' ≤ a && a ≤ '5' && b.isDigit
  | _ => false

/-- **Whether a plain scalar is a whole number.** -/
def isWhole (cs : List Char) : Bool :=
  match (cutSign cs).2 with
  | '0' :: 'b' :: digits =>
    !digits.isEmpty && digits.all fun c => c == '0' || c == '1' || c == '_'
  | '0' :: 'x' :: digits => !digits.isEmpty && digits.all fun c => isHex c || c == '_'
  | '0' :: digits => digits.all fun c => ('0' ≤ c && c ≤ '7') || c == '_'
  | body =>
    match split ':' body with
    | first :: rest => isCount first && rest.all isSixtieth
    | [] => false

/-- Whether a text is nothing or a signed exponent. -/
def isExponent : List Char → Bool
  | [] => true
  | e :: sign :: digits =>
    (e == 'e' || e == 'E') && (sign == '+' || sign == '-') && !digits.isEmpty
      && digits.all Char.isDigit
  | _ => false

/-- Whether a text is grouped digits and perhaps an exponent. -/
def isFraction (cs : List Char) : Bool := isExponent (cs.dropWhile isGrouped)

/-- The words for infinity. -/
def infinityWords : List (List Char) :=
  [['.', 'i', 'n', 'f'], ['.', 'I', 'n', 'f'], ['.', 'I', 'N', 'F']]

/-- The words for what is no number. -/
def undefinedWords : List (List Char) :=
  [['.', 'n', 'a', 'n'], ['.', 'N', 'a', 'N'], ['.', 'N', 'A', 'N']]

/-- **Whether a plain scalar is a number with a point.** -/
def isReal (cs : List Char) : Bool :=
  let body := (cutSign cs).2
  infinityWords.contains body || undefinedWords.contains cs
    || match cut '.' body with
      | (whole, some fraction) =>
        match split ':' whole with
        | [[]] => body == cs && (fraction.head?.any Char.isDigit) && isFraction fraction
        | [first] => isCount first && isFraction fraction
        | first :: rest => isCount first && rest.all isSixtieth && fraction.all isGrouped
        | [] => false
      | (_, none) => false

/-! ## Values -/

/-- A run of digits in a base. -/
def digitsIn (base : Nat) (shown digits : List Char) : Except NumberFault Nat :=
  if !digits.isEmpty && digits.all fun c => (hexValue? c).any (· < base) then
    .ok (numeral base digits)
  else .error (.notWhole base (String.ofList shown))

/-- The number of digits of base sixty, most significant one first. -/
def sixtieths (digits : List Nat) : Nat := digits.foldl (fun n d => n * 60 + d) 0

/-- A whole number without its sign. -/
def unsignedWhole (body : List Char) : Except NumberFault Nat :=
  match body with
  | ['0'] => .ok 0
  | '0' :: 'b' :: digits => digitsIn 2 digits digits
  | '0' :: 'x' :: digits => digitsIn 16 digits digits
  | '0' :: digits => digitsIn 8 body digits
  | _ =>
    match (split ':' body).mapM fun part => digitsIn 10 part part with
    | .ok parts => .ok (sixtieths parts)
    | .error e => .error e

/-- **The whole number a scalar stands for.** -/
def whole (cs : List Char) : Except NumberFault Int :=
  let (negative, body) := cutSign (cs.filter (· != '_'))
  match unsignedWhole body with
  | .ok n => .ok (if negative then -(n : Int) else n)
  | .error e => .error e

/-- The exponent at the end of a number. -/
def exponent? : List Char → Option Int
  | [] => some 0
  | e :: rest =>
    let (negative, digits) := cutSign rest
    if e == 'e' && !digits.isEmpty && digits.all Char.isDigit then
      let n : Int := numeral 10 digits
      some (if negative then -n else n)
    else none

/-- The decimal a text of digits, a point and an exponent stands for. -/
def unsignedDecimal? (cs : List Char) : Option Decimal :=
  let (whole, rest) := cs.span Char.isDigit
  let (fraction, rest) :=
    match rest with
    | '.' :: rest => rest.span Char.isDigit
    | rest => ([], rest)
  if whole.isEmpty && fraction.isEmpty then none
  else (exponent? rest).map fun e => ⟨false, numeral 10 (whole ++ fraction), e - fraction.length⟩

/-- A decimal with a count of sixties in front. -/
def Decimal.addSixties (n : Nat) (d : Decimal) : Decimal :=
  if d.exponent < 0 then
    { d with coefficient := n * 60 * Nat.pow 10 (-d.exponent).toNat + d.coefficient }
  else
    { d with
      coefficient := n * 60 + d.coefficient * Nat.pow 10 d.exponent.toNat
      exponent := 0 }

/-- A number with digits of base sixty in front of its last part. -/
def unsignedReal? (body : List Char) : Option Decimal :=
  let parts := split ':' body
  match parts.getLast? with
  | some last =>
    let front := parts.dropLast
    if front.all fun part => !part.isEmpty && part.all Char.isDigit then
      (unsignedDecimal? last).map (Decimal.addSixties (sixtieths (front.map (numeral 10))))
    else none
  | none => none

/-- **The number a scalar stands for.** -/
def real (cs : List Char) : Except NumberFault Binary64 :=
  let lower := (cs.filter (· != '_')).map Char.toLower
  let (negative, body) := cutSign lower
  if body == ['.', 'i', 'n', 'f'] then .ok (.infinite negative)
  else if body == ['.', 'n', 'a', 'n'] then .ok .undefined
  else
    match unsignedReal? body with
    | some d => .ok (Binary64.ofDecimal { d with negative := negative })
    | none => .error (.notReal (String.ofList body))

end TypedTraffic.Yaml
