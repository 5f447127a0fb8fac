import Mathlib.Data.List.TakeWhile
import TypedTraffic.Proofs.Declaration.Collapsed

/-!
# The canonical text as tokens

In the canonical text of a definition a declared name has become a
placeholder wherever it stands as a word, and no name is left behind the
keywords. The names are replaced one after the other, but since no
placeholder contains a name the order does not matter: all of them can be
replaced at once (`replaceNames_eq`).

For a definition whose names have at most blanks in front this gives the
canonical text as what the **erased hand** writes (`canonical_text`). The
tokens of the canonical text are those of that hand (`tokens_canonical`):
the names of fields are written there in the same way as references.
-/

namespace TypedTraffic

open Naming Text

namespace Canonical

/-! ## Replacing names -/

/-- What stands for a token when several names are replaced at once, with
placeholders numbered from `i`. -/
def indexed (names : List (List Char)) (i : Nat) : Token → List Token
  | .word w => if w ∈ names then placeholder (i + names.idxOf w) else [.word w]
  | .mark c => [.mark c]

/-- **Names that are no numerals can be replaced at once.** -/
theorem replaceNames_eq {names : List (List Char)} (i : Nat)
    (h : ∀ w ∈ names, ∀ k, w ≠ Nat.toDigits 10 k) (ts : List Token) :
    replaceNames i names ts = ts.flatMap (indexed names i) := by
  induction names generalizing i ts with
  | nil =>
    have hid : ∀ t ∈ ts, indexed [] i t = [t] := by
      intro t _
      cases t <;> rfl
    rw [replaceNames, List.flatMap_congr hid, List.flatMap_singleton']
  | cons name names ih =>
    have hrest : ∀ w ∈ names, ∀ k, w ≠ Nat.toDigits 10 k :=
      fun w hw => h w (List.mem_cons_of_mem _ hw)
    rw [replaceNames, ih (i + 1) hrest, replaceName, List.flatMap_assoc]
    refine List.flatMap_congr fun t _ => ?_
    cases t with
    | mark c => rfl
    | word w =>
      by_cases hw : w = name
      · -- no name is left to be replaced in a placeholder
        have hdigits : Nat.toDigits 10 i ∉ names := fun hmem => hrest _ hmem i rfl
        subst hw
        simp [indexed, placeholder, hdigits]
      · have hidx : (name :: names).idxOf w = names.idxOf w + 1 :=
          List.idxOf_cons_ne names (Ne.symm hw)
        have hi : i + 1 + names.idxOf w = i + (names.idxOf w + 1) := by omega
        simp [indexed, hw, hidx, hi]

/-! ## Erasing names -/

/-- The tokens do not go on with a space and a placeholder. -/
def Plain : List Token → Prop
  | .mark ' ' :: .mark '#' :: _ => False
  | _ => True

theorem plain_space {c : Char} (hc : c ≠ '#') (ts : List Token) :
    Plain (.mark ' ' :: .mark c :: ts) := by
  unfold Plain
  split
  · rename_i heq
    simp only [List.cons.injEq, Token.mark.injEq] at heq
    exact hc heq.2.1
  · trivial

theorem eraseDeclared_mark (c : Char) (ts : List Token) :
    eraseDeclared (.mark c :: ts) = c :: eraseDeclared ts := by
  rw [eraseDeclared]
  · rfl
  · intros
    contradiction

/-- A word with no placeholder behind it stays. -/
theorem eraseDeclared_word {ts : List Token} (h : Plain ts) (w : List Char) :
    eraseDeclared (.word w :: ts) = w ++ eraseDeclared ts := by
  rw [eraseDeclared]
  · rfl
  · rintro k v us - rfl
    exact h

theorem isDecimal_of_isDigit {c : Char} (h : c.isDigit = true) : isDecimal c = true := by
  have hc := (isDigit_iff.mp h).2
  rw [isDecimal, if_pos (by omega), h]

/-- **A placeholder behind a keyword goes**, and one space with it. -/
theorem eraseDeclared_placeholder {k : List Char} (hk : isKeyword k = true) (i : Nat)
    (ts : List Token) :
    eraseDeclared (.word k :: .mark ' ' :: placeholder i ++ .mark ' ' :: ts)
      = k ++ ' ' :: eraseDeclared ts := by
  have hdigits : ∀ c ∈ Nat.toDigits 10 i, isDecimal c = true := by
    intro c hc
    exact isDecimal_of_isDigit (Nat.isDigit_of_mem_toDigits (by decide) (by decide) hc)
  have hindex : withoutIndex? (Nat.toDigits 10 i) = some [] := by
    have htake : (Nat.toDigits 10 i).takeWhile isDecimal = Nat.toDigits 10 i :=
      List.takeWhile_eq_self_iff.mpr hdigits
    have hdrop : (Nat.toDigits 10 i).dropWhile isDecimal = [] :=
      List.dropWhile_eq_nil_iff.mpr hdigits
    rw [withoutIndex?, htake, hdrop, if_neg]
    rw [List.isEmpty_iff]
    exact toDigits_ne_nil i
  simp only [placeholder, List.cons_append, List.nil_append]
  rw [eraseDeclared, hk, hindex]
  rfl

end Canonical

open Canonical

/-! ## The hands of the canonical text -/

/-- **How a name is written among declared names**: as the placeholder of
its place, or as it is. -/
def slot (ns : List String) (n : String) : List Token :=
  if n ∈ ns then placeholder (ns.idxOf n) else [nameToken n]

/-- The hand in which declared names are placeholders. -/
def Hand.marked (ns : List String) : Hand where
  indent := [.mark ' ']
  close := [.mark ' ']
  between := [.mark ' ']
  declared n := slot ns n ++ [.mark ' ']
  reference := slot ns
  field := slot ns

/-- **The erased hand**: declared names are placeholders, and nothing is
left of them behind the keywords. -/
def Hand.erased (ns : List String) : Hand where
  indent := [.mark ' ']
  close := [.mark ' ']
  between := [.mark ' ']
  declared _ := []
  reference := slot ns
  field := slot ns

theorem indexed_nameToken (ns : List String) (n : String) :
    indexed (ns.map String.toList) 0 (nameToken n) = slot ns n := by
  -- a placeholder has the number of the first place of its name
  have hidx : (ns.map String.toList).idxOf n.toList = ns.idxOf n := by
    induction ns with
    | nil => rfl
    | cons m ns ih =>
      by_cases hm : m = n
      · rw [hm, List.map_cons, List.idxOf_cons_self, List.idxOf_cons_self]
      · have hl : m.toList ≠ n.toList := fun h => hm (String.toList_inj.mp h)
        rw [List.map_cons, List.idxOf_cons_ne _ hl, List.idxOf_cons_ne _ hm, ih]
  have hmem : n.toList ∈ ns.map String.toList ↔ n ∈ ns := by
    rw [List.mem_map]
    refine ⟨fun ⟨m, hm, h⟩ => String.toList_inj.mp h ▸ hm, fun h => ⟨n, h, rfl⟩⟩
  simp only [indexed, nameToken, hidx, hmem, slot, Nat.zero_add]

/-- A word that is not declared is written as it is. -/
theorem indexed_of_not_mem {ns : List String} {w : String} (hw : w ∉ ns) :
    indexed (ns.map String.toList) 0 (.word w.toList) = [.word w.toList] :=
  (indexed_nameToken ns w).trans (if_neg hw)

section Marked

variable {ns : List String} (hns : ∀ w ∈ interfaceWords, w ∉ ns)

include hns

/-- The words of interfaces are written as they are. -/
theorem indexed_reserved {w : String} (hw : w ∈ interfaceWords) :
    indexed (ns.map String.toList) 0 (.word w.toList) = [.word w.toList] :=
  indexed_of_not_mem (hns w hw)

theorem TypeExpr.indexed_written (t : TypeExpr) :
    (t.written (.tight [])).flatMap (indexed (ns.map String.toList) 0)
      = t.written (.marked ns) := by
  have hr := fun w hw => indexed_reserved hns (w := w) hw
  induction t with
  | named n => simpa [written, Hand.tight, Hand.marked] using indexed_nameToken ns n
  | array element ih => rw [written, List.flatMap_append, ih]; rfl
  | any => simpa [written] using hr "any" (by decide)
  | boolean => simpa [written] using hr "boolean" (by decide)
  | number => simpa [written] using hr "number" (by decide)
  | string => simpa [written] using hr "string" (by decide)
  | queryValue =>
    have hstring := hr "string" (by decide)
    have hnumber := hr "number" (by decide)
    have hboolean := hr "boolean" (by decide)
    simp only [written, List.flatMap_cons, List.flatMap_nil, hstring, hnumber, hboolean]
    rfl

theorem Field.indexed_written (f : Field) :
    (f.written (.tight [])).flatMap (indexed (ns.map String.toList) 0)
      = f.written (.marked ns) := by
  have hname : (Hand.tight []).field f.name = [nameToken f.name] := rfl
  have hmark : f.optionalMark.flatMap (indexed (ns.map String.toList) 0) = f.optionalMark := by
    unfold Field.optionalMark
    split <;> rfl
  unfold Field.written
  simp only [List.flatMap_append, List.flatMap_cons, List.flatMap_nil, hname, hmark,
    TypeExpr.indexed_written hns, indexed_nameToken, List.append_nil]
  rfl

theorem Interface.indexed_written (i : Interface) :
    (i.written (.tight [])).flatMap (indexed (ns.map String.toList) 0)
      = i.written (.marked ns) := by
  have hfields : ((Hand.tight []).fields i.fields).flatMap (indexed (ns.map String.toList) 0)
      = (Hand.marked ns).fields i.fields := by
    unfold Hand.fields
    rw [List.flatMap_assoc]
    refine List.flatMap_congr fun f _ => ?_
    rw [List.flatMap_append, Field.indexed_written hns]
    rfl
  have hkey := indexed_reserved hns (w := "interface") (by decide)
  have hname : (Hand.tight []).declared i.name = [nameToken i.name, .mark ' '] := rfl
  unfold Interface.written
  simp only [List.flatMap_append, List.flatMap_cons, List.flatMap_nil, hfields, hkey, hname,
    indexed_nameToken]
  simp [Hand.tight, Hand.marked, indexed]

theorem Definition.indexed_written (d : Definition)
    (hrecord : d.isAlias = true → "Record" ∉ ns) :
    (d.written (.tight [])).flatMap (indexed (ns.map String.toList) 0)
      = d.written (.marked ns) := by
  cases d with
  | interfaces root auxiliary =>
    have haux : ((Hand.tight []).interfaces auxiliary).flatMap (indexed (ns.map String.toList) 0)
        = (Hand.marked ns).interfaces auxiliary := by
      unfold Hand.interfaces
      rw [List.flatMap_assoc]
      refine List.flatMap_congr fun i _ => ?_
      rw [List.flatMap_append, Interface.indexed_written hns]
      rfl
    rw [Definition.written, List.flatMap_append, Interface.indexed_written hns, haux]
    rfl
  | «alias» name target =>
    have hr := fun w hw => indexed_reserved hns (w := w) hw
    have htype := hr "type" (by decide)
    have hname : (Hand.tight []).declared name = [nameToken name, .mark ' '] := rfl
    have htarget : target.written.flatMap (indexed (ns.map String.toList) 0) = target.written := by
      cases target
      · simpa [AliasTarget.written] using hr "any" (by decide)
      · have hrecord := indexed_of_not_mem (hrecord rfl)
        have hstring := hr "string" (by decide)
        simp only [AliasTarget.written, List.flatMap_cons, List.flatMap_nil, hrecord, hstring]
        rfl
    unfold Definition.written
    simp only [List.flatMap_append, List.flatMap_cons, List.flatMap_nil, htype, hname, htarget,
      indexed_nameToken]
    simp [Hand.marked, indexed]

end Marked

/-! ## Erasing what is declared -/

section Erased

variable {ns : List String}

theorem eraseDeclared_slot {ts : List Token} (h : Plain ts) (n : String) :
    eraseDeclared (slot ns n ++ ts) = charsOf (slot ns n) ++ eraseDeclared ts := by
  unfold slot
  split
  · rw [placeholder, List.cons_append, eraseDeclared_mark, List.cons_append, List.nil_append,
      eraseDeclared_word h]
    simp [Token.chars]
  · rw [nameToken, List.cons_append, List.nil_append, eraseDeclared_word h]
    simp [Token.chars]

theorem TypeExpr.eraseDeclared_written {ts : List Token} (h : Plain ts) (t : TypeExpr) :
    eraseDeclared (t.written (.marked ns) ++ ts)
      = charsOf (t.written (.erased ns)) ++ eraseDeclared ts := by
  induction t generalizing ts with
  | named n => exact eraseDeclared_slot h n
  | array element ih =>
    rw [written, List.append_assoc, ih (by trivial), List.cons_append, eraseDeclared_mark,
      List.cons_append, eraseDeclared_mark]
    simp [written, Token.chars]
  | queryValue =>
    simp only [written, List.cons_append, List.nil_append]
    rw [eraseDeclared_word (by trivial), eraseDeclared_mark, eraseDeclared_mark, eraseDeclared_mark,
      eraseDeclared_word (by trivial), eraseDeclared_mark, eraseDeclared_mark, eraseDeclared_mark,
      eraseDeclared_word h]
    simp [Token.chars]
  | any => simpa [written, Token.chars] using eraseDeclared_word h "any".toList
  | boolean => simpa [written, Token.chars] using eraseDeclared_word h "boolean".toList
  | number => simpa [written, Token.chars] using eraseDeclared_word h "number".toList
  | string => simpa [written, Token.chars] using eraseDeclared_word h "string".toList

theorem Field.eraseDeclared_written (f : Field) (ts : List Token) :
    eraseDeclared (f.written (.marked ns) ++ ts)
      = charsOf (f.written (.erased ns)) ++ eraseDeclared ts := by
  have htype : eraseDeclared (f.type.written (.marked ns) ++ .mark ';' :: ts)
      = charsOf (f.type.written (.erased ns)) ++ ';' :: eraseDeclared ts := by
    rw [TypeExpr.eraseDeclared_written (by trivial), eraseDeclared_mark]
  have hname : (Hand.marked ns).field f.name = slot ns f.name := rfl
  have hname' : (Hand.erased ns).field f.name = slot ns f.name := rfl
  unfold Field.written Field.optionalMark
  rw [hname, hname']
  cases f.optional
  · simp only [Bool.false_eq_true, if_false, List.append_nil, List.append_assoc, List.cons_append,
      List.nil_append]
    rw [eraseDeclared_slot (by trivial), eraseDeclared_mark, eraseDeclared_mark, htype]
    simp [Token.chars]
  · simp only [if_true, List.append_assoc, List.cons_append, List.nil_append]
    rw [eraseDeclared_slot (by trivial), eraseDeclared_mark, eraseDeclared_mark,
      eraseDeclared_mark, htype]
    simp [Token.chars]

/-- Behind a keyword the name of a declaration goes. -/
theorem eraseDeclared_declared {k : List Char} (hk : isKeyword k = true) {n : String}
    (hn : n ∈ ns) (ts : List Token) :
    eraseDeclared (.word k :: .mark ' ' :: ((Hand.marked ns).declared n ++ ts))
      = k ++ ' ' :: eraseDeclared ts := by
  have hslot : (Hand.marked ns).declared n = placeholder (ns.idxOf n) ++ [.mark ' '] := by
    show slot ns n ++ [.mark ' '] = _
    rw [slot, if_pos hn]
  have h := eraseDeclared_placeholder hk (ns.idxOf n) ts
  rw [hslot, List.append_assoc]
  exact h

theorem Interface.eraseDeclared_written {i : Interface} (hi : i.name ∈ ns) (ts : List Token) :
    eraseDeclared (i.written (.marked ns) ++ ts)
      = charsOf (i.written (.erased ns)) ++ eraseDeclared ts := by
  have hfields : ∀ us, eraseDeclared ((Hand.marked ns).fields i.fields ++ us)
      = charsOf ((Hand.erased ns).fields i.fields) ++ eraseDeclared us := by
    intro us
    induction i.fields with
    | nil => rfl
    | cons f fs ih =>
      have hindent : (Hand.marked ns).indent = [.mark ' '] := rfl
      rw [Hand.fields_cons, Hand.fields_cons, List.append_assoc, List.append_assoc, hindent,
        List.cons_append, List.nil_append, eraseDeclared_mark, Field.eraseDeclared_written, ih]
      simp [Hand.erased, Token.chars]
  have hclose : (Hand.marked ns).close = [.mark ' '] := rfl
  unfold Interface.written
  simp only [List.append_assoc, List.cons_append, List.nil_append, hclose]
  rw [eraseDeclared_declared (by decide) hi, eraseDeclared_mark, hfields, eraseDeclared_mark,
    eraseDeclared_mark]
  simp [Hand.erased, Token.chars]

theorem Definition.eraseDeclared_written {d : Definition} (hd : ∀ n ∈ d.names, n ∈ ns) :
    eraseDeclared (d.written (.marked ns)) = charsOf (d.written (.erased ns)) := by
  cases d with
  | interfaces root auxiliary =>
    have haux : ∀ is : List Interface, (∀ i ∈ is, i ∈ auxiliary) →
        eraseDeclared ((Hand.marked ns).interfaces is)
          = charsOf ((Hand.erased ns).interfaces is) := by
      intro is
      induction is with
      | nil => exact fun _ => by rw [Hand.interfaces_nil, eraseDeclared]; rfl
      | cons i is ih =>
        intro hsub
        have hbetween : (Hand.marked ns).between = [.mark ' '] := rfl
        have hi : i.name ∈ ns := by
          refine hd _ (List.mem_map_of_mem (List.mem_cons_of_mem _ ?_))
          exact hsub i List.mem_cons_self
        rw [Hand.interfaces_cons, Hand.interfaces_cons, List.append_assoc, hbetween,
          List.cons_append, List.nil_append, eraseDeclared_mark,
          Interface.eraseDeclared_written hi, ih fun j hj => hsub j (List.mem_cons_of_mem _ hj)]
        simp [Hand.erased, Token.chars]
    have hroot : root.name ∈ ns := hd _ List.mem_cons_self
    rw [Definition.written, Definition.written, Interface.eraseDeclared_written hroot,
      haux auxiliary fun _ h => h, charsOf_append]
  | «alias» name target =>
    have htarget : eraseDeclared (target.written ++ [.mark ';'])
        = charsOf target.written ++ [';'] := by
      cases target
      · simp only [AliasTarget.written, List.cons_append, List.nil_append]
        rw [eraseDeclared_word (by trivial), eraseDeclared_mark, eraseDeclared]
        rfl
      · simp only [AliasTarget.written, List.cons_append, List.nil_append]
        rw [eraseDeclared_word (by trivial), eraseDeclared_mark, eraseDeclared_word (by trivial),
          eraseDeclared_mark, eraseDeclared_mark, eraseDeclared_word (by trivial),
          eraseDeclared_mark, eraseDeclared_mark, eraseDeclared]
        rfl
    unfold Definition.written
    simp only [List.append_assoc, List.cons_append]
    rw [eraseDeclared_declared (by decide) (hd _ List.mem_cons_self), eraseDeclared_mark,
      eraseDeclared_mark, htarget]
    simp [Hand.erased, Token.chars]

end Erased

/-! ## The canonical text -/

/-- The tight hand shows what is declared. -/
theorem Hand.tight_shows : (Hand.tight []).Shows (fun n => [n.toList]) (fun _ => []) where
  indent := declarations_marks [' ']
  close := declarations_marks [' ']
  between := declarations_marks [' ']
  declared {n} ts _ := congrArg (n.toList :: ·) (declarations_marks [' '] ts)
  reference ts _ hc := declarations_word_mark _ hc ts
  field _ _ ts hc := declarations_word_mark _ hc ts

theorem proper_slot {ns : List String} {n : String} {ts : List Token}
    (hn : IsWordName n) (ha : Apart ts) (h : Canonical.Proper ts) :
    Canonical.Proper (slot ns n ++ ts) := by
  unfold slot
  split
  · have hword : ∀ c ∈ Nat.toDigits 10 (ns.idxOf n), isWord c = true := fun c hc =>
      isWord_of_mem_name (isNameChar_of_isDigit
        (Nat.isDigit_of_mem_toDigits (by decide) (by decide) hc))
    exact ⟨by decide, toDigits_ne_nil _, hword, ha, h⟩
  · exact proper_nameToken hn ha h

/-- The erased hand writes proper tokens. -/
theorem Hand.erased_proper (ns : List String) : (Hand.erased ns).Proper where
  indent h := h.append_marks [' '] (by decide)
  close h := h.append_marks [' '] (by decide)
  between h := h.append_marks [' '] (by decide)
  declared _ _ h := h
  reference hn ha h := proper_slot hn.1 ha h
  field hn ha h := proper_slot hn ha h

/-- A name is no numeral. -/
theorem toList_ne_toDigits {n : String} (h : IsWordName n) (k : Nat) :
    n.toList ≠ Nat.toDigits 10 k := by
  obtain ⟨c, cs, hc, hd⟩ := h.first
  intro hk
  have hmem : c ∈ Nat.toDigits 10 k := by
    rw [← hk, hc]
    exact List.mem_cons_self
  rw [Nat.isDigit_of_mem_toDigits (by decide) (by decide) hmem] at hd
  exact absurd hd (by decide)

theorem distinct_of_nodup {α : Type} [DecidableEq α] {xs : List α} (h : xs.Nodup) :
    Ordered.distinct xs = xs := by
  induction xs with
  | nil => rfl
  | cons x xs ih =>
    obtain ⟨hx, hxs⟩ := List.nodup_cons.mp h
    rw [Ordered.distinct, ih hxs, List.filter_eq_self.mpr fun y hy => ?_]
    exact decide_eq_true fun hyx => hx (hyx ▸ hy)

section Canonical

variable {lead : List Token} (hl : IsBlankLead lead) {d : Definition} (hd : d.Clear)

include hl hd

/-- **The canonical text of a definition** is what the erased hand
writes. -/
theorem Definition.canonical_text :
    canonical (d.rename (led lead)).text
      = String.ofList (charsOf (d.written (.erased d.names))) := by
  have htokens : tokens (trimSpaces (collapseBlanks false (d.rename (led lead)).text.toList))
      = d.written (.tight []) :=
    Definition.tokens_collapsed hl.collapsesTo (Hand.plain_proper hl.proper)
      (Hand.tight_proper isBlankLead_nil.proper) hd
  have hnames : Ordered.distinct (declarations none (d.written (.tight [])))
      = d.names.map String.toList := by
    rw [Definition.declarations_written Hand.tight_shows hd, Definition.shown_names]
    exact distinct_of_nodup (hd.nodup.map fun _ _ h => String.toList_inj.mp h)
  have hnumeral : ∀ w ∈ d.names.map String.toList, ∀ k, w ≠ Nat.toDigits 10 k := by
    intro w hw k
    obtain ⟨n, hn, rfl⟩ := List.mem_map.mp hw
    exact toList_ne_toDigits (hd.names n hn).1 k
  have hwords : ∀ w ∈ interfaceWords, w ∉ d.names := fun w hw hn => (hd.names w hn).2 hw
  rw [canonical, htokens, hnames, replaceNames_eq 0 hnumeral,
    Definition.indexed_written hwords d hd.target, Definition.eraseDeclared_written fun _ h => h]

/-- **The tokens of the canonical text.** -/
theorem Definition.tokens_canonical :
    tokens (canonical (d.rename (led lead)).text).toList = d.written (.erased d.names) := by
  rw [Definition.canonical_text hl hd, String.toList_ofList]
  exact tokens_charsOf (Definition.proper_written (Hand.erased_proper d.names) hd)

end Canonical

end TypedTraffic
