import Mathlib.Data.List.Basic
import TypedTraffic.Naming.Identifier
import TypedTraffic.Options
import TypedTraffic.Proofs.Naming.Fresh

/-!
# Names are identifiers

What the ways from source names to names lead to: a field asks for an
identifier (`isIdentifier_fieldBase`), the words of a text make a
**title**, a name of letters and digits that begins with a capital
(`isTitle_titleWords`).

A **type name** is an identifier with a capital behind its first
character. A prefix, a title and a capitalised word behind them make
one (`isTypeName_stem`), and it stays one when name characters are put
behind it (`IsTypeName.append`). No word of the language of declarations
is one (`IsTypeName.not_mem_reservedWords`).
-/

namespace TypedTraffic.Naming

open Text

/-! ## Characters of names -/

/-- What holds of the characters of a text is decided along the text, not
along all characters there are. -/
instance decidableForallMem {p : Char → Prop} [DecidablePred p] (cs : List Char) :
    Decidable (∀ c ∈ cs, p c) := List.decidableBAll p cs

theorem isUpper_iff_val {c : Char} :
    c.isUpper = true ↔ c.val ≥ 'A'.val ∧ c.val ≤ 'Z'.val := by
  show decide (c.val ≥ 'A'.val ∧ c.val ≤ 'Z'.val) = true ↔ _
  rw [decide_eq_true_iff]

theorem isLower_iff_val {c : Char} :
    c.isLower = true ↔ c.val ≥ 'a'.val ∧ c.val ≤ 'z'.val := by
  show (decide (c.val ≥ 'a'.val) && decide (c.val ≤ 'z'.val)) = true ↔ _
  rw [Bool.and_eq_true, decide_eq_true_iff, decide_eq_true_iff]

theorem isUpper_iff {c : Char} : c.isUpper = true ↔ 65 ≤ c.toNat ∧ c.toNat ≤ 90 := by
  rw [isUpper_iff_val]
  simp [UInt32.le_iff_toNat_le, ← Char.toNat_val]

theorem isLower_iff {c : Char} : c.isLower = true ↔ 97 ≤ c.toNat ∧ c.toNat ≤ 122 := by
  rw [isLower_iff_val]
  simp [UInt32.le_iff_toNat_le, ← Char.toNat_val]

theorem isDigit_iff {c : Char} : c.isDigit = true ↔ 48 ≤ c.toNat ∧ c.toNat ≤ 57 := by
  show (decide (c.val ≥ '0'.val) && decide (c.val ≤ '9'.val)) = true ↔ _
  simp [UInt32.le_iff_toNat_le, ← Char.toNat_val]

theorem isAlpha_iff {c : Char} : c.isAlpha = true ↔ c.isUpper = true ∨ c.isLower = true := by
  show (c.isUpper || c.isLower) = true ↔ _
  rw [Bool.or_eq_true]

theorem isAlphanumeric_iff {c : Char} :
    isAlphanumeric c = true ↔ c.isAlpha = true ∨ c.isDigit = true := by
  rw [isAlphanumeric, Bool.or_eq_true]

theorem isNameChar_iff {c : Char} :
    isNameChar c = true ↔ isAlphanumeric c = true ∨ c = '_' := by
  rw [isNameChar, Bool.or_eq_true, beq_iff_eq]

theorem isNameChar_of_isDigit {c : Char} (h : c.isDigit = true) : isNameChar c = true :=
  isNameChar_iff.mpr (Or.inl (isAlphanumeric_iff.mpr (Or.inr h)))

theorem not_isDigit_of_isAlpha {c : Char} (h : c.isAlpha = true) : c.isDigit = false := by
  rw [isAlpha_iff, isUpper_iff, isLower_iff] at h
  rw [← Bool.not_eq_true, isDigit_iff]
  omega

theorem toNat_lt_of_isNameChar {c : Char} (h : isNameChar c = true) : c.toNat < 128 := by
  rw [isNameChar_iff, isAlphanumeric_iff, isAlpha_iff, isUpper_iff, isLower_iff,
    isDigit_iff] at h
  rcases h with h | rfl
  · omega
  · decide

/-- **Name characters are word characters.** -/
theorem isWord_of_mem_name {c : Char} (h : isNameChar c = true) : isWord c = true :=
  isWord_of_isNameChar h (toNat_lt_of_isNameChar h)

theorem toNat_toUpper (c : Char) :
    c.toUpper.toNat = if c.isLower = true then c.toNat - 32 else c.toNat := by
  unfold Char.toUpper
  by_cases h : c.isLower = true
  · have hr := isLower_iff.mp h
    rw [if_pos h, dif_pos (isLower_iff_val.mp h)]
    show (c.val + ('A'.val - 'a'.val)).toNat = c.val.toNat - 32
    change 97 ≤ c.val.toNat ∧ c.val.toNat ≤ 122 at hr
    rw [UInt32.toNat_add, show ('A'.val - 'a'.val).toNat = 2 ^ 32 - 32 from rfl]
    omega
  · rw [if_neg h, dif_neg (mt isLower_iff_val.mpr h)]

theorem toNat_toLower (c : Char) :
    c.toLower.toNat = if c.isUpper = true then c.toNat + 32 else c.toNat := by
  unfold Char.toLower
  by_cases h : c.isUpper = true
  · have hr := isUpper_iff.mp h
    rw [if_pos h, dif_pos (isUpper_iff_val.mp h)]
    show (c.val + ('a'.val - 'A'.val)).toNat = c.val.toNat + 32
    change 65 ≤ c.val.toNat ∧ c.val.toNat ≤ 90 at hr
    rw [UInt32.toNat_add, show ('a'.val - 'A'.val).toNat = 32 from rfl]
    omega
  · rw [if_neg h, dif_neg (mt isUpper_iff_val.mpr h)]

/-- The capital of a letter or digit is a capital letter or a digit. -/
theorem isUpper_or_isDigit_toUpper {c : Char} (h : isAlphanumeric c = true) :
    c.toUpper.isUpper = true ∨ c.toUpper.isDigit = true := by
  rw [isAlphanumeric_iff, isAlpha_iff, isUpper_iff, isDigit_iff] at h
  rw [isUpper_iff, isDigit_iff, toNat_toUpper]
  split
  · rename_i hl
    have := isLower_iff.mp hl
    omega
  · rename_i hl
    rcases h with (h | h) | h
    · exact Or.inl h
    · exact absurd h hl
    · exact Or.inr h

theorem isAlpha_toLower {c : Char} (h : c.isAlpha = true) : c.toLower.isAlpha = true := by
  rw [isAlpha_iff, isLower_iff] at h
  rw [isAlpha_iff, isLower_iff, toNat_toLower]
  split
  · rename_i hu
    have := isUpper_iff.mp hu
    omega
  · rename_i hu
    exact Or.inr (h.resolve_left hu)

theorem isAlphanumeric_toLower {c : Char} (h : isAlphanumeric c = true) :
    isAlphanumeric c.toLower = true := by
  rw [isAlphanumeric_iff, isAlpha_iff, isLower_iff, isDigit_iff] at h
  rw [isAlphanumeric_iff, isAlpha_iff, isLower_iff, isDigit_iff, toNat_toLower]
  split
  · rename_i hu
    have := isUpper_iff.mp hu
    omega
  · rename_i hu
    rcases h with (h | h) | h
    · exact absurd h hu
    · exact Or.inl (Or.inr h)
    · exact Or.inr h

/-! ## Identifiers -/

theorem isIdentifier_iff {s : String} :
    isIdentifier s = true
      ↔ (∃ c cs, s.toList = c :: cs ∧ c.isDigit = false)
        ∧ ∀ c ∈ s.toList, isNameChar c = true := by
  unfold isIdentifier
  cases s.toList with
  | nil => simp
  | cons c cs => simp [List.all_eq_true]

/-- **An identifier stays one** when name characters are put behind it. -/
theorem isIdentifier_append {a b : String} (ha : isIdentifier a = true)
    (hb : ∀ c ∈ b.toList, isNameChar c = true) : isIdentifier (a ++ b) = true := by
  obtain ⟨⟨c, cs, hc, hd⟩, hall⟩ := isIdentifier_iff.mp ha
  refine isIdentifier_iff.mpr ⟨⟨c, cs ++ b.toList, ?_, hd⟩, fun x hx => ?_⟩
  · rw [String.toList_append, hc, List.cons_append]
  · rw [String.toList_append, List.mem_append] at hx
    exact hx.elim (hall x) (hb x)

/-- **A name of a field's series is an identifier** if the base is one. -/
theorem isIdentifier_firstFree {base : String} (taken : List String)
    (h : isIdentifier base = true) : isIdentifier (firstFree "_" taken base) = true := by
  obtain ⟨tail, htail, hc⟩ := firstFree_eq_append "_" taken base
  rw [htail]
  refine isIdentifier_append h (fun c hmem => ?_)
  rcases hc c hmem with hsep | hd
  · have : c = '_' := by simpa using hsep
    subst this
    decide
  · exact isNameChar_of_isDigit hd

theorem isNameChar_nameChar (p : CodePoint) : isNameChar (nameChar p) = true := by
  unfold nameChar
  split
  · assumption
  · decide

theorem isIdentifier_sanitized {fallback : String} (h : isIdentifier fallback = true)
    (source : SourceName) : isIdentifier (sanitized fallback source) = true := by
  have hall : ∀ c ∈ source.map nameChar, isNameChar c = true := by
    intro c hc
    obtain ⟨p, -, rfl⟩ := List.mem_map.mp hc
    exact isNameChar_nameChar p
  unfold sanitized
  split
  · exact h
  · rename_i c cs heq
    rw [heq] at hall
    refine isIdentifier_iff.mpr ?_
    rw [String.toList_ofList]
    by_cases hd : c.isDigit = true
    · rw [if_pos hd]
      refine ⟨⟨'_', c :: cs, rfl, by decide⟩, fun x hx => ?_⟩
      rcases List.mem_cons.mp hx with rfl | hx
      · decide
      · exact hall x hx
    · rw [if_neg hd]
      exact ⟨⟨c, cs, rfl, by simpa using hd⟩, hall⟩

/-- **The name a field asks for is an identifier.** -/
theorem isIdentifier_fieldBase (source : SourceName) : isIdentifier (fieldBase source) = true :=
  isIdentifier_sanitized (by decide) (withoutMark source)

/-! ## Titles -/

/-- **A title**: a capital letter, then letters and digits. -/
def IsTitle (s : String) : Prop :=
  ∃ c cs, s.toList = c :: cs ∧ c.isUpper = true ∧ ∀ d ∈ cs, isAlphanumeric d = true

/-- The pieces of a text hold no separator. -/
theorem not_sep_of_mem_splitWhere {p : Char → Bool} {cs piece : List Char} {c : Char}
    (h : piece ∈ splitWhere p cs) (hc : c ∈ piece) : p c = false := by
  induction cs generalizing piece with
  | nil =>
    rw [splitWhere, List.mem_singleton] at h
    rw [h] at hc
    exact absurd hc List.not_mem_nil
  | cons d cs ih =>
    unfold splitWhere at h
    split at h
    · rcases List.mem_cons.mp h with rfl | h
      · exact absurd hc List.not_mem_nil
      · exact ih h hc
    · rename_i hd
      split at h
      · rw [List.mem_singleton] at h
        rw [h, List.mem_singleton] at hc
        rw [hc]
        simpa using hd
      · rename_i first pieces heq
        rcases List.mem_cons.mp h with rfl | h
        · rcases List.mem_cons.mp hc with rfl | hc
          · simpa using hd
          · exact ih (by rw [heq]; exact List.mem_cons_self) hc
        · exact ih (by rw [heq]; exact List.mem_cons_of_mem _ h) hc

/-- A word is a run of letters and digits that is not empty. -/
theorem word_of_mem_words {cs w : List Char} (h : w ∈ words cs) :
    w ≠ [] ∧ ∀ c ∈ w, isAlphanumeric c = true := by
  obtain ⟨hpiece, hne⟩ := List.mem_filter.mp h
  refine ⟨by simpa using hne, fun c hc => ?_⟩
  simpa using not_sep_of_mem_splitWhere hpiece hc

theorem isAlphanumeric_of_mem_capitalized {w : List Char} {c : Char}
    (hw : ∀ d ∈ w, isAlphanumeric d = true) (hc : c ∈ capitalized w) :
    isAlphanumeric c = true := by
  cases w with
  | nil => exact absurd hc List.not_mem_nil
  | cons a as =>
    rcases List.mem_cons.mp hc with rfl | hc
    · rw [isAlphanumeric_iff, isAlpha_iff]
      exact (isUpper_or_isDigit_toUpper (hw a List.mem_cons_self)).imp_left Or.inl
    · obtain ⟨d, hd, rfl⟩ := List.mem_map.mp hc
      exact isAlphanumeric_toLower (hw d (List.mem_cons_of_mem _ hd))

/-- The capitalised words of a text, one behind the other: letters and
digits, of which the first is no small letter. -/
theorem capitalizedWords_eq_cons {ws : List (List Char)} {c : Char} {cs : List Char}
    (hws : ∀ w ∈ ws, w ≠ [] ∧ ∀ d ∈ w, isAlphanumeric d = true)
    (h : ws.flatMap capitalized = c :: cs) :
    (c.isUpper = true ∨ c.isDigit = true) ∧ ∀ d ∈ cs, isAlphanumeric d = true := by
  have hall : ∀ d ∈ ws.flatMap capitalized, isAlphanumeric d = true := by
    intro d hd
    obtain ⟨w, hw, hd⟩ := List.mem_flatMap.mp hd
    exact isAlphanumeric_of_mem_capitalized (hws w hw).2 hd
  refine ⟨?_, fun d hd => hall d (by rw [h]; exact List.mem_cons_of_mem _ hd)⟩
  cases ws with
  | nil => exact absurd h (by simp)
  | cons w ws =>
    obtain ⟨hne, hw⟩ := hws w List.mem_cons_self
    cases w with
    | nil => exact absurd rfl hne
    | cons a as =>
      rw [List.flatMap_cons, capitalized, List.cons_append, List.cons.injEq] at h
      rw [← h.1]
      exact isUpper_or_isDigit_toUpper (hw a List.mem_cons_self)

/-- **The words of a text make a title.** -/
theorem isTitle_titleWords {fallback : String} (h : IsTitle fallback) (s : String) :
    IsTitle (titleWords fallback s) := by
  unfold titleWords
  split
  · exact h
  · rename_i c cs heq
    obtain ⟨hc, hcs⟩ := capitalizedWords_eq_cons (fun w hw => word_of_mem_words hw) heq
    by_cases hd : c.isDigit = true
    · refine ⟨'T', c :: cs, by rw [String.toList_ofList, if_pos hd], by decide, fun x hx => ?_⟩
      rcases List.mem_cons.mp hx with rfl | hx
      · exact isAlphanumeric_iff.mpr (Or.inr hd)
      · exact hcs x hx
    · exact ⟨c, cs, by rw [String.toList_ofList, if_neg hd], hc.resolve_right hd, hcs⟩

theorem IsTitle.isNameChar {s : String} (h : IsTitle s) :
    ∀ c ∈ s.toList, isNameChar c = true := by
  obtain ⟨c, cs, hs, hc, hcs⟩ := h
  intro x hx
  rw [hs] at hx
  rw [isNameChar_iff, isAlphanumeric_iff, isAlpha_iff]
  rcases List.mem_cons.mp hx with rfl | hx
  · exact Or.inl (Or.inl (Or.inl hc))
  · exact Or.inl (by rw [← isAlpha_iff, ← isAlphanumeric_iff]; exact hcs x hx)

theorem IsTitle.isIdentifier {s : String} (h : IsTitle s) : isIdentifier s = true := by
  obtain ⟨c, cs, hs, hc, -⟩ := id h
  have hfirst : c.isDigit = false := not_isDigit_of_isAlpha (isAlpha_iff.mpr (Or.inl hc))
  exact isIdentifier_iff.mpr ⟨⟨c, cs, hs, hfirst⟩, h.isNameChar⟩

/-! ## Type names -/

/-- **A type name**: an identifier with a capital behind its first
character. -/
structure IsTypeName (s : String) : Prop where
  /-- It is an identifier. -/
  identifier : isIdentifier s = true
  /-- A capital stands behind the first character. -/
  capital : ∃ c ∈ s.toList.tail, c.isUpper = true

/-- **A type name stays one** when name characters are put behind it. -/
theorem IsTypeName.append {a b : String} (ha : IsTypeName a)
    (hb : ∀ c ∈ b.toList, isNameChar c = true) : IsTypeName (a ++ b) := by
  refine ⟨isIdentifier_append ha.identifier hb, ?_⟩
  obtain ⟨c, hc, hu⟩ := ha.capital
  refine ⟨c, ?_, hu⟩
  rw [String.toList_append]
  cases h : a.toList with
  | nil => rw [h] at hc; exact absurd hc List.not_mem_nil
  | cons d ds =>
    rw [h] at hc
    exact List.mem_append_left _ hc

/-- A title behind a text that is not empty is a capital in its tail. -/
theorem exists_isUpper_tail_append {a b : String} (ha : a.toList ≠ []) (hb : IsTitle b) :
    ∃ c ∈ (a ++ b).toList.tail, c.isUpper = true := by
  obtain ⟨c, cs, hbs, hc, -⟩ := hb
  refine ⟨c, ?_, hc⟩
  rw [String.toList_append, List.tail_append_of_ne_nil ha, hbs]
  exact List.mem_append_right _ List.mem_cons_self

/-- A prefix that is not empty is an identifier. -/
theorem isIdentifier_of_isNamePrefix {p : String} (hp : Options.isNamePrefix p.toList = true)
    (hne : p.toList ≠ []) : isIdentifier p = true := by
  obtain ⟨c, cs, hl⟩ := List.exists_cons_of_ne_nil hne
  rw [hl] at hp
  simp only [Options.isNamePrefix, Bool.and_eq_true, Bool.or_eq_true, beq_iff_eq,
    List.all_eq_true] at hp
  refine isIdentifier_iff.mpr ⟨⟨c, cs, hl, ?_⟩, fun x hx => ?_⟩
  · rcases hp.1 with hc | rfl
    · exact not_isDigit_of_isAlpha hc
    · decide
  · rw [hl] at hx
    rcases List.mem_cons.mp hx with rfl | hx
    · rcases hp.1 with hc | rfl
      · exact isNameChar_iff.mpr (Or.inl (isAlphanumeric_iff.mpr (Or.inl hc)))
      · decide
    · exact hp.2 x hx

/-- A prefix that is empty or an identifier, and an identifier behind it,
make an identifier. -/
theorem isIdentifier_prefix_append {p t : String} (hp : Options.isNamePrefix p.toList = true)
    (ht : isIdentifier t = true) : isIdentifier (p ++ t) = true := by
  by_cases hne : p.toList = []
  · have hempty : p = "" := String.toList_inj.mp (by rw [hne, String.toList_empty])
    rw [hempty, String.empty_append]
    exact ht
  · exact isIdentifier_append (isIdentifier_of_isNamePrefix hp hne) (isIdentifier_iff.mp ht).2

/-- **A prefix and two titles make a type name.** -/
theorem isTypeName_stem {p t role : String} (hp : Options.isNamePrefix p.toList = true)
    (ht : IsTitle t) (hrole : IsTitle role) : IsTypeName (p ++ t ++ role) := by
  refine ⟨isIdentifier_append (isIdentifier_prefix_append hp ht.isIdentifier) hrole.isNameChar,
    exists_isUpper_tail_append ?_ hrole⟩
  obtain ⟨c, cs, hs, -, -⟩ := ht
  rw [String.toList_append, hs]
  simp

/-- A prefix and a type name behind it make a type name. -/
theorem isTypeName_prefix_append {p n : String} (hp : Options.isNamePrefix p.toList = true)
    (hn : IsTypeName n) : IsTypeName (p ++ n) := by
  refine ⟨isIdentifier_prefix_append hp hn.identifier, ?_⟩
  obtain ⟨c, hc, hu⟩ := hn.capital
  refine ⟨c, ?_, hu⟩
  rw [String.toList_append]
  cases p.toList with
  | nil => exact hc
  | cons d ds => exact List.mem_append_right _ (List.mem_of_mem_tail hc)

/-- The words that declarations are written with. -/
def reservedWords : List String :=
  ["interface", "type", "any", "boolean", "number", "string", "Record"]

/-- **No reserved word is a type name.** -/
theorem IsTypeName.not_mem_reservedWords {s : String} (h : IsTypeName s) :
    s ∉ reservedWords := by
  have hnone : ∀ w ∈ reservedWords, ∀ c ∈ w.toList.tail, c.isUpper = false := by decide
  intro hs
  obtain ⟨c, hc, hu⟩ := h.capital
  exact absurd hu (by rw [hnone s hs c hc]; decide)

end TypedTraffic.Naming
