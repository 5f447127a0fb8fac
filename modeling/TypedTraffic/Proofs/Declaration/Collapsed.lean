import TypedTraffic.Proofs.Declaration.Header

/-!
# Definitions with their blanks collapsed

Collapsing the blanks of a text keeps its words apart and its other marks
in place, so it can be done token by token (`collapseBlanks_charsOf`).
On a definition it turns the plain hand into the tight one
(`tokens_collapsed`); a blank in front of a type name is lost in the one
that stands there already.
-/

namespace TypedTraffic

open Naming Text

namespace Canonical

/-- The code points of the blanks. -/
def blankCodes : List Nat :=
  [9, 10, 11, 12, 13, 28, 29, 30, 31, 32, 0x85, 0xA0, 0x1680, 0x2000, 0x2001, 0x2002, 0x2003,
   0x2004, 0x2005, 0x2006, 0x2007, 0x2008, 0x2009, 0x200A, 0x2028, 0x2029, 0x202F, 0x205F, 0x3000]

theorem mem_blankCodes_of_isBlank {c : Char} (h : isBlank c = true) : c.toNat ∈ blankCodes := by
  simp only [isBlank, Bool.or_eq_true, Bool.and_eq_true, decide_eq_true_eq, beq_iff_eq] at h
  simp only [blankCodes, List.mem_cons, List.not_mem_nil, or_false]
  omega

/-- **No blank is a word character.** -/
theorem not_isBlank_of_isWord {c : Char} (h : isWord c = true) : isBlank c = false := by
  have hnone : ∀ n ∈ blankCodes, isWord (Char.ofNat n) = false := by decide +kernel
  by_contra hb
  have hc := hnone c.toNat (mem_blankCodes_of_isBlank (by simpa using hb))
  rw [Char.ofNat_toNat, h] at hc
  exact absurd hc (by decide)

/-- **The tokens with every run of blanks as one space**; `afterBlank`
tells whether a blank came last. -/
def collapsed : Bool → List Token → List Token
  | _, [] => []
  | _, .word w :: ts => .word w :: collapsed false ts
  | afterBlank, .mark c :: ts =>
    if isBlank c then
      if afterBlank then collapsed true ts else .mark ' ' :: collapsed true ts
    else .mark c :: collapsed false ts

theorem collapseBlanks_append {w : List Char} (hne : w ≠ []) (hw : ∀ c ∈ w, isBlank c = false)
    (afterBlank : Bool) (cs : List Char) :
    collapseBlanks afterBlank (w ++ cs) = w ++ collapseBlanks false cs := by
  induction w generalizing afterBlank with
  | nil => exact absurd rfl hne
  | cons c w ih =>
    rw [List.cons_append, collapseBlanks, if_neg (by rw [hw c List.mem_cons_self]; decide)]
    cases w with
    | nil => rfl
    | cons d w =>
      rw [ih (by simp) (fun x hx => hw x (List.mem_cons_of_mem _ hx))]
      rfl

/-- **Blanks are collapsed token by token.** -/
theorem collapseBlanks_charsOf {ts : List Token} (h : Proper ts) (afterBlank : Bool) :
    collapseBlanks afterBlank (charsOf ts) = charsOf (collapsed afterBlank ts) := by
  induction ts generalizing afterBlank with
  | nil => rfl
  | cons t ts ih =>
    cases t with
    | word w =>
      obtain ⟨hne, hw, -, hp⟩ := h
      rw [charsOf_cons, Token.chars, collapseBlanks_append hne
        (fun c hc => not_isBlank_of_isWord (hw c hc)), ih hp]
      rfl
    | mark c =>
      have hc : charsOf (.mark c :: ts) = c :: charsOf ts := rfl
      rw [hc, collapseBlanks, collapsed]
      by_cases hb : isBlank c = true
      · cases afterBlank <;> simp [hb, ih h.2, Token.chars]
      · simp [hb, ih h.2, Token.chars]

theorem collapsed_word (afterBlank : Bool) (w : List Char) (ts : List Token) :
    collapsed afterBlank (.word w :: ts) = .word w :: collapsed false ts := by
  cases afterBlank <;> rfl

theorem trimSpaces_eq_self {cs : List Char} (hfirst : cs.head? ≠ some ' ')
    (hlast : cs.getLast? ≠ some ' ') : trimSpaces cs = cs := by
  have hdrop : ∀ xs : List Char, xs.head? ≠ some ' ' → xs.dropWhile (· == ' ') = xs := by
    intro xs hxs
    cases xs with
    | nil => rfl
    | cons x xs =>
      rw [List.dropWhile_cons_of_neg]
      simpa using hxs
  rw [trimSpaces, hdrop cs hfirst, dropEndWhile,
    hdrop _ (by rwa [List.head?_reverse]), List.reverse_reverse]

/-- There are no spaces at the ends of tokens that begin with a word and end
in a mark. -/
theorem trimSpaces_charsOf {w : List Char} (hne : w ≠ []) (hw : w.head? ≠ some ' ') {c : Char}
    (hc : c ≠ ' ') (us : List Token) :
    trimSpaces (charsOf (.word w :: us ++ [.mark c])) = charsOf (.word w :: us ++ [.mark c]) := by
  refine trimSpaces_eq_self ?_ ?_
  · rw [List.cons_append, charsOf_cons, Token.chars, List.head?_append_of_ne_nil _ hne]
    exact hw
  · rw [charsOf_append]
    simpa [Token.chars] using hc

end Canonical

open Canonical

section Tight

variable {lead lead' : List Token}

/-- The lead `lead'` is what is left of `lead` behind a blank. -/
def CollapsesTo (lead lead' : List Token) : Prop :=
  ∀ n ts, collapsed true (lead ++ nameToken n :: ts) = lead' ++ nameToken n :: collapsed false ts

theorem IsBlankLead.collapsesTo (hl : IsBlankLead lead) : CollapsesTo lead [] := by
  obtain ⟨cs, rfl, hcs⟩ := hl
  intro n ts
  induction cs with
  | nil => rfl
  | cons c cs ih =>
    rw [List.map_cons, List.cons_append, collapsed, (hcs c List.mem_cons_self).1]
    exact ih fun d hd => hcs d (List.mem_cons_of_mem _ hd)

variable (hl : CollapsesTo lead lead')

include hl

/-- The space behind a declared name is a gap of both hands. -/
theorem Hand.collapsed_declared (n : String) {c : Char} (hc : isBlank c = false)
    (ts : List Token) : collapsed true ((Hand.plain lead).declared n ++ .mark c :: ts)
      = (Hand.tight lead').declared n ++ collapsed false (.mark c :: ts) := by
  have hgap : collapsed false (.mark ' ' :: .mark c :: ts)
      = .mark ' ' :: collapsed false (.mark c :: ts) := by
    simp [collapsed, hc, show isBlank ' ' = true from rfl]
  have h := hl n (.mark ' ' :: .mark c :: ts)
  rw [hgap] at h
  simpa [Hand.plain, Hand.tight] using h

theorem TypeExpr.collapsed_written (t : TypeExpr) (ts : List Token) :
    collapsed true (t.written (.plain lead) ++ ts)
      = t.written (.tight lead') ++ collapsed false ts := by
  induction t generalizing ts with
  | named n =>
    have h := hl n ts
    simpa [TypeExpr.written, Hand.plain, Hand.tight] using h
  | array element ih =>
    rw [written, List.append_assoc, ih, written, List.append_assoc]
    rfl
  | _ => rfl

theorem Field.collapsed_written (f : Field) (ts : List Token) :
    collapsed false ((Hand.plain lead).indent ++ f.written (.plain lead) ++ ts)
      = (Hand.tight lead').indent ++ f.written (.tight lead') ++ collapsed false ts := by
  have htype : collapsed false (.mark ':' :: .mark ' ' ::
        (f.type.written (.plain lead) ++ .mark ';' :: ts))
      = .mark ':' :: .mark ' '
        :: (f.type.written (.tight lead') ++ .mark ';' :: collapsed false ts) :=
    congrArg (fun us => Token.mark ':' :: .mark ' ' :: us)
      (TypeExpr.collapsed_written hl f.type (.mark ';' :: ts))
  unfold Field.written Field.optionalMark
  cases f.optional
  · simp only [Bool.false_eq_true, if_false, List.append_nil, List.append_assoc, List.cons_append,
      List.nil_append]
    exact congrArg (fun us => .mark ' ' :: nameToken f.name :: us) htype
  · simp only [if_true, List.append_assoc, List.cons_append, List.nil_append]
    exact congrArg (fun us => .mark ' ' :: nameToken f.name :: .mark '?' :: us) htype

theorem Hand.collapsed_fields (fs : List Field) (ts : List Token) :
    collapsed false ((Hand.plain lead).fields fs ++ ts)
      = (Hand.tight lead').fields fs ++ collapsed false ts := by
  induction fs with
  | nil => rfl
  | cons f fs ih =>
    rw [Hand.fields_cons, Hand.fields_cons, List.append_assoc, Field.collapsed_written hl, ih,
      List.append_assoc (_ ++ _)]

theorem Interface.collapsed_written (afterBlank : Bool) (i : Interface) (ts : List Token) :
    collapsed afterBlank (i.written (.plain lead) ++ ts)
      = i.written (.tight lead') ++ collapsed false ts := by
  have hbody : collapsed false (.mark '\x7b' ::
        ((Hand.plain lead).fields i.fields ++ ((Hand.plain lead).close ++ .mark '\x7d' :: ts)))
      = .mark '\x7b' :: ((Hand.tight lead').fields i.fields
        ++ ((Hand.tight lead').close ++ .mark '\x7d' :: collapsed false ts)) :=
    congrArg (Token.mark '\x7b' :: ·) (Hand.collapsed_fields hl i.fields _)
  unfold Interface.written
  simp only [List.append_assoc, List.cons_append, List.nil_append]
  rw [collapsed_word]
  refine congrArg (fun us => Token.word "interface".toList :: .mark ' ' :: us) ?_
  rw [Hand.collapsed_declared hl i.name (by decide), hbody]

/-- **Collapsing blanks turns the plain hand into the tight one.** -/
theorem Definition.collapsed_written (d : Definition) :
    collapsed false (d.written (.plain lead)) = d.written (.tight lead') := by
  cases d with
  | interfaces root auxiliary =>
    -- the two line ends between interfaces leave one space
    have haux : collapsed false ((Hand.plain lead).interfaces auxiliary)
        = (Hand.tight lead').interfaces auxiliary := by
      induction auxiliary with
      | nil => rfl
      | cons i is ih =>
        rw [Hand.interfaces_cons, Hand.interfaces_cons, List.append_assoc, List.append_assoc, ← ih,
          ← Interface.collapsed_written hl true]
        rfl
    rw [Definition.written, Definition.written, Interface.collapsed_written hl, haux]
  | «alias» name target =>
    rw [Definition.written, Definition.written]
    simp only [List.append_assoc, List.cons_append]
    rw [collapsed_word]
    refine congrArg (fun us => Token.word "type".toList :: .mark ' ' :: us) ?_
    rw [Hand.collapsed_declared hl name (by decide)]
    refine congrArg ((Hand.tight lead').declared name ++ ·) ?_
    cases target <;> rfl

omit hl

/-- A definition ends in a closing brace or a semicolon. -/
theorem Definition.exists_written_eq (h : Hand) (d : Definition) :
    ∃ w us c, d.written h = .word w :: us ++ [.mark c]
      ∧ (w = "interface".toList ∨ w = "type".toList)
      ∧ (c = '\x7d' ∨ c = ';') := by
  cases d with
  | interfaces root auxiliary =>
    have hend : ∀ is : List Interface,
        h.interfaces is = [] ∨ ∃ us, h.interfaces is = us ++ [.mark '\x7d'] := by
      intro is
      induction is with
      | nil => exact Or.inl rfl
      | cons i is ih =>
        rw [Hand.interfaces_cons]
        rcases ih with hnil | ⟨us, hus⟩
        · rw [hnil, Interface.written]
          exact Or.inr ⟨_, by rw [List.append_nil, ← List.append_assoc]⟩
        · rw [hus]
          exact Or.inr ⟨_, by rw [← List.append_assoc]⟩
    rw [Definition.written]
    rcases hend auxiliary with hnil | ⟨us, hus⟩
    · rw [hnil, List.append_nil]
      exact ⟨_, _, _, rfl, Or.inl rfl, Or.inl rfl⟩
    · rw [hus, ← List.append_assoc]
      exact ⟨_, _, _, rfl, Or.inl rfl, Or.inl rfl⟩
  | «alias» name target => exact ⟨_, _, _, rfl, Or.inr rfl, Or.inr rfl⟩

include hl

/-- **The tokens of a definition's text with its blanks collapsed** are
those of the tight hand. -/
theorem Definition.tokens_collapsed (hplain : (Hand.plain lead).Proper)
    (htight : (Hand.tight lead').Proper) {d : Definition} (hd : d.Clear) :
    tokens (trimSpaces (collapseBlanks false (d.rename (led lead)).text.toList))
      = d.written (.tight lead') := by
  have hcollapse : collapseBlanks false (d.rename (led lead)).text.toList
      = charsOf (d.written (.tight lead')) := by
    rw [← Definition.charsOf_written,
      collapseBlanks_charsOf (Definition.proper_written hplain hd),
      Definition.collapsed_written hl]
  have htrim : trimSpaces (charsOf (d.written (.tight lead')))
      = charsOf (d.written (.tight lead')) := by
    obtain ⟨w, us, c, hw, hkey, hc⟩ := Definition.exists_written_eq (.tight lead') d
    rw [hw]
    rcases hkey with rfl | rfl <;> rcases hc with rfl | rfl <;>
      exact trimSpaces_charsOf (by decide) (by decide) (by decide) us
  rw [hcollapse, htrim, tokens_charsOf (Definition.proper_written htight hd)]

end Tight

end TypedTraffic
