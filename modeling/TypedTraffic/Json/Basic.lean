import TypedTraffic.Text.CodePoint
import TypedTraffic.Number.Binary64

/-!
# JSON values

A JSON value as it is read: strings and keys are lists of code points,
objects keep their keys in order of first appearance, and numbers keep
the distinction between whole numbers, which are exact, and decimals.
-/

namespace TypedTraffic

/-- **A number of a JSON document.** -/
inductive Json.Number where
  /-- A whole number, written without point and exponent. -/
  | whole (value : Int)
  /-- A number written with a point or an exponent. -/
  | decimal (value : Decimal)
  /-- The words `Infinity` and `-Infinity`. -/
  | infinity (negative : Bool)
  /-- The word `NaN`. -/
  | undefined
  deriving DecidableEq

/-- **A JSON value.** -/
inductive Json where
  /-- The value `null`. -/
  | null
  /-- A truth value. -/
  | bool (value : Bool)
  /-- A number. -/
  | number (value : Json.Number)
  /-- A string. -/
  | string (value : List CodePoint)
  /-- A list of values. -/
  | array (items : List Json)
  /-- Values by key, in order of the keys' first appearance. -/
  | object (members : List (List CodePoint × Json))

/-- What kind of value a value is, as far as types tell kinds apart. -/
inductive Json.Kind where
  /-- No value. -/
  | null
  /-- A truth value. -/
  | boolean
  /-- A number, whole or not. -/
  | number
  /-- A string. -/
  | string
  /-- A list. -/
  | array
  /-- An object. -/
  | object
  deriving DecidableEq

namespace Json

/-- The kind of a value. -/
def kind : Json → Kind
  | .null => .null
  | .bool _ => .boolean
  | .number _ => .number
  | .string _ => .string
  | .array _ => .array
  | .object _ => .object

/-- The members of an object. -/
def members? : Json → Option (List (List CodePoint × Json))
  | .object members => some members
  | _ => none

/-- The items of a list. -/
def items? : Json → Option (List Json)
  | .array items => some items
  | _ => none

/-- The value of a key. -/
def get? (members : List (List CodePoint × Json)) (key : String) : Option Json :=
  members.lookup (codePoints key)

/-! ## Equality -/

mutual

/-- Whether two values are equal. -/
def decideEq : (v w : Json) → Decidable (v = w)
  | .null, .null => isTrue rfl
  | .bool a, .bool b => decidable_of_iff (a = b) (by simp)
  | .number a, .number b => decidable_of_iff (a = b) (by simp)
  | .string a, .string b => decidable_of_iff (a = b) (by simp)
  | .array a, .array b =>
    have := decideItems a b
    decidable_of_iff (a = b) (by simp)
  | .object a, .object b =>
    have := decideMembers a b
    decidable_of_iff (a = b) (by simp)
  | .null, .bool _ | .null, .number _ | .null, .string _ | .null, .array _ | .null, .object _
  | .bool _, .null | .bool _, .number _ | .bool _, .string _ | .bool _, .array _
  | .bool _, .object _ | .number _, .null | .number _, .bool _ | .number _, .string _
  | .number _, .array _ | .number _, .object _ | .string _, .null | .string _, .bool _
  | .string _, .number _ | .string _, .array _ | .string _, .object _ | .array _, .null
  | .array _, .bool _ | .array _, .number _ | .array _, .string _ | .array _, .object _
  | .object _, .null | .object _, .bool _ | .object _, .number _ | .object _, .string _
  | .object _, .array _ => isFalse (by simp)
  termination_by structural v => v

/-- Whether two lists of values are equal. -/
def decideItems : (vs ws : List Json) → Decidable (vs = ws)
  | [], [] => isTrue rfl
  | v :: vs, w :: ws =>
    have := decideEq v w
    have := decideItems vs ws
    decidable_of_iff (v = w ∧ vs = ws) (by simp)
  | [], _ :: _ | _ :: _, [] => isFalse (by simp)
  termination_by structural vs => vs

/-- Whether two lists of members are equal. -/
def decideMembers : (ms ns : List (List CodePoint × Json)) → Decidable (ms = ns)
  | [], [] => isTrue rfl
  | (k, v) :: ms, (l, w) :: ns =>
    have := decideEq v w
    have := decideMembers ms ns
    decidable_of_iff ((k = l ∧ v = w) ∧ ms = ns) (by simp)
  | [], _ :: _ | _ :: _, [] => isFalse (by simp)
  termination_by structural ms => ms

end

instance : DecidableEq Json := decideEq

end Json

end TypedTraffic
