import TypedTraffic.Text.Class
import TypedTraffic.Text.CodePoint

/-!
# Halves of surrogate pairs in texts

Half of a surrogate pair that stands alone is a code point but no
character, so no text can hold it. In a text that is read from a document
a character **stands in** for it that the document does not use. What is
made of a text makes no difference between the two, since neither is a
letter, a numeral, a blank or a mark of any format. The difference shows
when the text is encoded: a half has no bytes, and the encoding ends at
the first of them.
-/

namespace TypedTraffic.Text

/-- Whether a code point is half of a surrogate pair. -/
def isHalf (p : CodePoint) : Bool := p.isLeading || p.isTrailing

/-- No character is half of a surrogate pair. -/
theorem isHalf_ofChar (c : Char) : isHalf (.ofChar c) = false := by
  have hvalid : c.toNat.isValidChar := c.valid
  rw [isHalf, CodePoint.isLeading, CodePoint.isTrailing, CodePoint.val_ofChar]
  simp only [Bool.or_eq_false_iff, Bool.and_eq_false_iff, decide_eq_false_iff_not]
  unfold Nat.isValidChar at hvalid
  omega

/-- What is no half of a surrogate pair is a character. -/
theorem isValidChar_of_isHalf {p : CodePoint} (h : isHalf p = false) : p.val.isValidChar := by
  rw [isHalf, CodePoint.isLeading, CodePoint.isTrailing] at h
  simp only [Bool.or_eq_false_iff, Bool.and_eq_false_iff, decide_eq_false_iff_not] at h
  have hlt := p.lt
  unfold Nat.isValidChar
  omega

/-- A half that nothing stands in for is replaced. -/
theorem toChar_of_isHalf {p : CodePoint} (h : isHalf p = true) : p.toChar = '\uFFFD' := by
  refine if_neg fun hvalid => ?_
  rw [isHalf, CodePoint.isLeading, CodePoint.isTrailing] at h
  simp only [Bool.or_eq_true, Bool.and_eq_true, decide_eq_true_eq] at h
  unfold Nat.isValidChar at hvalid
  omega

/-- **Characters that stand in for halves of surrogate pairs.** -/
abbrev StandIns := List (CodePoint × Char)

/-- The half that a character stands in for. -/
def StandIns.half? (standIns : StandIns) (c : Char) : Option CodePoint :=
  (standIns.find? (·.2 == c)).map Prod.fst

theorem StandIns.isSome_half?_iff {standIns : StandIns} {c : Char} :
    (standIns.half? c).isSome = true ↔ ∃ half, (half, c) ∈ standIns := by
  simp [half?, List.find?_isSome]

/-- A code point, or what stands in for it. -/
def StandIns.place (standIns : StandIns) (p : CodePoint) : CodePoint :=
  match standIns.lookup p with
  | some c => .ofChar c
  | none => p

/-- Consecutive characters from a number on. -/
def charsFrom (start : Nat) : Nat → List Char
  | 0 => []
  | count + 1 => Char.ofNat start :: charsFrom (start + 1) count

theorem mem_charsFrom {c : Char} {start count : Nat} (h : c ∈ charsFrom start count) :
    ∃ n, start ≤ n ∧ n < start + count ∧ c = Char.ofNat n := by
  induction count generalizing start with
  | zero => cases h
  | succ count ih =>
    rcases List.mem_cons.mp h with rfl | h
    · exact ⟨start, Nat.le_refl _, by omega, rfl⟩
    · obtain ⟨n, hle, hlt, heq⟩ := ih h
      exact ⟨n, by omega, by omega, heq⟩

/-- The characters that are left to private use. -/
def privateChars : List Char := charsFrom 0xE000 6400

/-- The replacement character is none of them. -/
theorem replacement_notMem_privateChars : '\uFFFD' ∉ privateChars := by
  intro h
  obtain ⟨n, hle, hlt, heq⟩ := mem_charsFrom h
  have hn : (Char.ofNat n).toNat = n := toNat_charOfNat (Or.inr ⟨by omega, by omega⟩)
  rw [← heq] at hn
  have hreplacement : ('\uFFFD').toNat = 0xFFFD := rfl
  omega

/-- Halves with stand-ins in order, from characters that are not used. -/
def standInsFrom (used : List CodePoint) : List Char → List CodePoint → StandIns
  | _, [] => []
  | [], _ => []
  | c :: cs, half :: halves =>
    if .ofChar c ∈ used then standInsFrom used cs (half :: halves)
    else (half, c) :: standInsFrom used cs halves

/-- What stands in for a half is chosen from what is not used. -/
theorem mem_standInsFrom {used halves : List CodePoint} {cs : List Char} {half : CodePoint}
    {c : Char} (h : (half, c) ∈ standInsFrom used cs halves) : c ∈ cs ∧ .ofChar c ∉ used := by
  induction cs generalizing halves with
  | nil => cases halves <;> cases h
  | cons d cs ih =>
    cases halves with
    | nil => cases h
    | cons first halves =>
      rw [standInsFrom] at h
      split at h
      · exact ⟨List.mem_cons_of_mem _ (ih h).1, (ih h).2⟩
      · rename_i hunused
        rcases List.mem_cons.mp h with heq | h
        · obtain ⟨rfl, rfl⟩ := Prod.mk.inj heq
          exact ⟨List.mem_cons_self, hunused⟩
        · exact ⟨List.mem_cons_of_mem _ (ih h).1, (ih h).2⟩

/-! ## Encoding -/

/-- Code points without bytes: the first of them, its position and how
many there are. -/
structure EncodingFault where
  /-- The first code point. -/
  first : CodePoint
  /-- Its position. -/
  start : Nat
  /-- The number of code points. -/
  count : Nat
  deriving DecidableEq

/-- The text of a fault. -/
def EncodingFault.message (f : EncodingFault) : String :=
  let place :=
    if f.count = 1 then
      "character '\\u" ++ String.ofList (hexPadded 4 f.first.val) ++ "' in position "
        ++ toString f.start
    else "characters in position " ++ toString f.start ++ "-" ++ toString (f.start + f.count - 1)
  "'utf-8' codec can't encode " ++ place ++ ": surrogates not allowed"

/-- The first fault from a position on. -/
def StandIns.faultFrom? (standIns : StandIns) : Nat → List Char → Option EncodingFault
  | _, [] => none
  | pos, c :: cs =>
    match standIns.half? c with
    | some half =>
      some ⟨half, pos, ((c :: cs).takeWhile fun c => (standIns.half? c).isSome).length⟩
    | none => standIns.faultFrom? (pos + 1) cs

/-- **Why a text has no bytes**, if it has none. -/
def StandIns.fault? (standIns : StandIns) (text : String) : Option EncodingFault :=
  standIns.faultFrom? 0 text.toList

/-- **A text has no bytes** exactly if something stands in it for half of a
surrogate pair. -/
theorem StandIns.isSome_fault?_iff {standIns : StandIns} {text : String} :
    (standIns.fault? text).isSome = true
      ↔ ∃ c ∈ text.toList, (standIns.half? c).isSome = true := by
  have hfrom : ∀ (pos : Nat) (cs : List Char), (standIns.faultFrom? pos cs).isSome = true
      ↔ ∃ c ∈ cs, (standIns.half? c).isSome = true := by
    intro pos cs
    induction cs generalizing pos with
    | nil => simp [faultFrom?]
    | cons c cs ih =>
      rw [faultFrom?]
      cases hc : standIns.half? c with
      | some half => simp [hc]
      | none => simp [hc, ih]
  exact hfrom 0 text.toList

/-- Without stand-ins every text has bytes. -/
@[simp] theorem StandIns.fault?_nil (text : String) : StandIns.fault? [] text = none := by
  rw [← Option.not_isSome_iff_eq_none, isSome_fault?_iff]
  rintro ⟨c, -, hhalf⟩
  cases hhalf

end TypedTraffic.Text
