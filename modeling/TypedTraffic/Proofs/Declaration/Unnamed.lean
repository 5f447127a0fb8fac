import TypedTraffic.Proofs.Declaration.Fronted

/-!
# Lists of fields under one name

Lists of fields are compared by the canonical text of an interface that all
of them are put into, under the name `_`. Its text is read as that of any
interface, but what is in front of type names is not in front of this one.

As long as only the name `_` is found behind a keyword, nothing but this name
is erased: a field called `type` or `interface` stays, and one called `_`
becomes a placeholder like every `_` of the text, from which it is read back
(`Unnamed.tokens_eq_of_canonical_eq`). So the canonical text tells lists of
fields apart, whatever is in front of the types they refer to, if nothing in
front looks like a declaration (`SilentLead.fields_eq_of_canonical_eq`).
-/

namespace TypedTraffic

open Naming Text

namespace Canonical

/-! ## Tokens that declare nothing -/

/-- What declares nothing behind a keyword declares nothing elsewhere. -/
theorem declarations_none_of_eq_nil {pending : Option Bool} {ts : List Token}
    (h : declarations pending ts = []) : declarations none ts = [] := by
  induction ts generalizing pending with
  | nil => rfl
  | cons t ts ih =>
    cases t with
    | word w =>
      match pending, h with
      | none, h => exact h
      | some false, h => exact h
      | some true, h => cases h
    | mark c =>
      rw [declarations_mark] at h ⊢
      rw [Option.map_none, ite_self]
      exact ih h

/-- A word that is no keyword stays, whatever is behind it. -/
theorem eraseDeclared_word_of_not_isKeyword {w : List Char} (hw : isKeyword w = false)
    (ts : List Token) : eraseDeclared (.word w :: ts) = w ++ eraseDeclared ts := by
  rw [eraseDeclared.eq_def]
  split
  · rename_i k v us heq
    obtain ⟨hk, rfl⟩ := List.cons.inj heq
    cases hk
    rw [hw]
  · rename_i heq
    obtain ⟨rfl, rfl⟩ := List.cons.inj heq
    rfl
  · rename_i heq
    cases heq

/-- A numeral is no keyword. -/
theorem not_isKeyword_toDigits (k : Nat) : isKeyword (Nat.toDigits 10 k) = false := by
  rw [← Bool.not_eq_true, isKeyword, Bool.or_eq_true, beq_iff_eq, beq_iff_eq]
  rintro (h | h)
  · exact toList_ne_toDigits (isWordName_of_isIdentifier (by decide)) k h.symm
  · exact toList_ne_toDigits (isWordName_of_isIdentifier (by decide)) k h.symm

section Indexed

variable (names : List (List Char)) (i : Nat)

/-- Behind a keyword that declares nothing there is no placeholder. -/
theorem plain_flatMap_indexed {ts : List Token} (hnone : declarations (some false) ts = [])
    (hmark : Token.mark '#' ∉ ts) : Plain (ts.flatMap (indexed names i)) := by
  cases ts with
  | nil => trivial
  | cons t ts =>
    cases t with
    | word w =>
      rw [List.flatMap_cons, indexed]
      split <;> trivial
    | mark c =>
      by_cases hc : c = ' '
      · subst hc
        cases ts with
        | nil => trivial
        | cons u us =>
          cases u with
          | word v => cases hnone
          | mark d =>
            have hd : d ≠ '#' := by
              rintro rfl
              exact hmark (by simp)
            exact plain_space hd _
      · simp [Plain, indexed, hc]

/-- **Nothing is erased of tokens that declare nothing.** -/
theorem eraseDeclared_flatMap_indexed {ts : List Token} (hnone : declarations none ts = [])
    (hmark : Token.mark '#' ∉ ts) :
    eraseDeclared (ts.flatMap (indexed names i)) = charsOf (ts.flatMap (indexed names i)) := by
  induction ts with
  | nil =>
    rw [List.flatMap_nil, eraseDeclared]
    rfl
  | cons t ts ih =>
    have hmark' : Token.mark '#' ∉ ts := fun h => hmark (List.mem_cons_of_mem _ h)
    cases t with
    | mark c =>
      rw [declarations_mark, Option.map_none, ite_self] at hnone
      have hc : indexed names i (.mark c) = [.mark c] := rfl
      rw [List.flatMap_cons, hc, List.cons_append, List.nil_append, eraseDeclared_mark,
        ih hnone hmark']
      rfl
    | word w =>
      rw [declarations_word] at hnone
      have hrest := ih (declarations_none_of_eq_nil hnone) hmark'
      rw [List.flatMap_cons, charsOf_append, ← hrest, indexed]
      split
      · -- a numeral is no keyword, so what is behind a placeholder does not matter
        rw [placeholder, List.cons_append, eraseDeclared_mark, List.cons_append, List.nil_append,
          eraseDeclared_word_of_not_isKeyword (not_isKeyword_toDigits _)]
        simp [Token.chars]
      · rw [List.cons_append, List.nil_append]
        cases hw : isKeyword w with
        | false =>
          rw [eraseDeclared_word_of_not_isKeyword hw]
          simp [Token.chars]
        | true =>
          rw [hw, if_pos rfl] at hnone
          rw [eraseDeclared_word (plain_flatMap_indexed names i hnone hmark')]
          simp [Token.chars]

variable {names i}

theorem proper_flatMap_indexed {ts : List Token} (h : Proper ts) :
    Proper (ts.flatMap (indexed names i)) := by
  induction ts with
  | nil => trivial
  | cons t ts ih =>
    cases t with
    | mark c => exact ⟨h.1, ih h.2⟩
    | word w =>
      obtain ⟨hne, hw, hapart, hts⟩ := h
      have happart : Apart (ts.flatMap (indexed names i)) := by
        cases ts with
        | nil => trivial
        | cons u us =>
          cases u with
          | word v => exact absurd hapart id
          | mark d => trivial
      rw [List.flatMap_cons, indexed]
      split
      · exact ⟨by decide, toDigits_ne_nil _, fun c hc => isWord_of_mem_name (isNameChar_of_isDigit
          (Nat.isDigit_of_mem_toDigits (by decide) (by decide) hc)), happart, ih hts⟩
      · exact ⟨hne, hw, happart, ih hts⟩

/-- What stands for a token is read back, if there is no `#` among the
tokens. -/
theorem indexed_append_inj {t u : Token} (ht : t ≠ .mark '#') (hu : u ≠ .mark '#')
    {ts us : List Token} (h : indexed names i t ++ ts = indexed names i u ++ us) :
    t = u ∧ ts = us := by
  cases t with
  | mark c =>
    cases u with
    | mark d =>
      obtain ⟨hc, hrest⟩ := List.cons.inj h
      exact ⟨hc, hrest⟩
    | word v =>
      rw [indexed, indexed] at h
      split at h
      · exact absurd (List.cons.inj h).1 ht
      · exact absurd (List.cons.inj h).1 (by simp)
  | word w =>
    cases u with
    | mark d =>
      rw [indexed, indexed] at h
      split at h
      · exact absurd (List.cons.inj h).1.symm hu
      · exact absurd (List.cons.inj h).1 (by simp)
    | word v =>
      rw [indexed, indexed] at h
      split at h <;> split at h
      · rename_i hw hv
        simp only [placeholder, List.cons_append, List.nil_append, List.cons.injEq,
          Token.word.injEq, true_and] at h
        have hidx : names.idxOf w = names.idxOf v := by
          have := toDigits_injective h.1
          omega
        exact ⟨congrArg Token.word ((List.idxOf_inj hw).mp hidx), h.2⟩
      · exact absurd (List.cons.inj h).1 (by simp)
      · exact absurd (List.cons.inj h).1 (by simp)
      · exact List.cons.inj h

/-- **Tokens are read back from what stands for them.** -/
theorem flatMap_indexed_inj {ts us : List Token} (hts : Token.mark '#' ∉ ts)
    (hus : Token.mark '#' ∉ us) (h : ts.flatMap (indexed names i) = us.flatMap (indexed names i)) :
    ts = us := by
  have hne : ∀ t : Token, indexed names i t ≠ [] := by
    intro t
    cases t with
    | mark c => simp [indexed]
    | word w =>
      rw [indexed]
      split <;> simp [placeholder]
  induction ts generalizing us with
  | nil =>
    cases us with
    | nil => rfl
    | cons u us => exact absurd (List.append_eq_nil_iff.mp h.symm).1 (hne u)
  | cons t ts ih =>
    cases us with
    | nil => exact absurd (List.append_eq_nil_iff.mp h).1 (hne t)
    | cons u us =>
      rw [List.mem_cons, not_or] at hts hus
      obtain ⟨rfl, hrest⟩ := indexed_append_inj (Ne.symm hts.1) (Ne.symm hus.1) h
      rw [ih hts.2 hus.2 hrest]

end Indexed

/-! ## The canonical text under the name `_` -/

/-- **A text under the name `_`**, given by its tokens behind the name: when
blanks are collapsed, these declare nothing. -/
structure Unnamed (text : String) (ts : List Token) : Prop where
  /-- The tokens of the text. -/
  tokens : tokens (trimSpaces (collapseBlanks false text.toList))
    = .word "interface".toList :: .mark ' ' :: nameToken "_" :: .mark ' ' :: ts
  /-- The tokens can be read. -/
  proper : Proper ts
  /-- They declare nothing. -/
  nothing : declarations none ts = []
  /-- None of them is a `#`. -/
  mark : Token.mark '#' ∉ ts

/-- **The canonical text of a text under the name `_`**: the name behind the
keyword goes, and every other `_` becomes a placeholder. -/
theorem Unnamed.canonical_eq {text : String} {ts : List Token} (h : Unnamed text ts) :
    canonical text = String.ofList (charsOf (.word "interface".toList :: .mark ' '
      :: ts.flatMap (indexed [['_']] 0))) := by
  have hnames : Ordered.distinct (declarations none (.word "interface".toList :: .mark ' '
      :: nameToken "_" :: .mark ' ' :: ts)) = [['_']] := by
    have hdeclared : declarations none (.word "interface".toList :: .mark ' '
        :: nameToken "_" :: .mark ' ' :: ts) = ['_'] :: declarations none ts :=
      congrArg (['_'] :: ·) (declarations_marks [' '] ts)
    rw [hdeclared, h.nothing]
    rfl
  have hnumeral : ∀ w ∈ [['_']], ∀ k, w ≠ Nat.toDigits 10 k := by
    intro w hw k
    rw [List.mem_singleton.mp hw]
    exact toList_ne_toDigits (n := "_") (isWordName_of_isIdentifier (by decide)) k
  have hfront : (Token.word "interface".toList :: .mark ' ' :: nameToken "_" :: .mark ' '
      :: ts).flatMap (indexed [['_']] 0)
        = .word "interface".toList :: .mark ' ' :: placeholder 0
          ++ .mark ' ' :: ts.flatMap (indexed [['_']] 0) := rfl
  rw [canonical, h.tokens, hnames, replaceNames_eq 0 hnumeral, hfront,
    eraseDeclared_placeholder (by decide), eraseDeclared_flatMap_indexed _ _ h.nothing h.mark]
  rfl

/-- **Texts under the name `_` are read back** from their canonical
texts. -/
theorem Unnamed.tokens_eq_of_canonical_eq {text text' : String} {ts ts' : List Token}
    (h : Unnamed text ts) (h' : Unnamed text' ts') (heq : canonical text = canonical text') :
    ts = ts' := by
  have hproper : ∀ {us : List Token}, Proper us → Proper (.word "interface".toList :: .mark ' '
      :: us.flatMap (indexed [['_']] 0)) := fun hus =>
    ⟨by decide, by decide, trivial, by decide, proper_flatMap_indexed hus⟩
  rw [h.canonical_eq, h'.canonical_eq] at heq
  have htokens := congrArg Canonical.tokens (String.ofList_injective heq)
  rw [tokens_charsOf (hproper h.proper), tokens_charsOf (hproper h'.proper)] at htokens
  exact flatMap_indexed_inj h.mark h'.mark (List.cons.inj (List.cons.inj htokens).2).2

end Canonical

open Canonical

/-! ## Lists of fields -/

/-- **A clear field**: its name is a word, and so is what it refers to, which
can be told from the words of interfaces. -/
structure Field.Clear (f : Field) : Prop where
  /-- The name is a word. -/
  name : IsWordName f.name
  /-- The reference is a word, and none of the words of interfaces. -/
  reference : ∀ n, f.type.reference? = some n → IsClearName n

/-- The tokens of a list of fields in braces. -/
def Hand.record (h : Hand) (fs : List Field) : List Token :=
  .mark '\x7b' :: (h.fields fs ++ (h.close ++ [.mark '\x7d']))

/-- The characters of an interface whose name has nothing in front of it. -/
theorem Hand.charsOf_record (lead : List Token) (n : String) (fs : List Field) :
    charsOf (.word "interface".toList :: .mark ' ' :: nameToken n :: .mark ' '
        :: (Hand.plain lead).record fs)
      = (Interface.text ⟨n, fs.map (Field.rename (led lead))⟩).toList := by
  rw [Interface.toList_text, Hand.record, ← Hand.charsOf_fields]
  simp [Hand.plain, nameToken, Token.chars]

theorem Hand.proper_record {h : Hand} (hh : h.Proper) {fs : List Field}
    (hfs : ∀ f ∈ fs, f.Clear) : Canonical.Proper (h.record fs) :=
  ⟨by decide, Hand.proper_fields hh (fun f hf => (hfs f hf).name)
    (fun f hf => (hfs f hf).reference) (hh.close ⟨by decide, trivial⟩)⟩

theorem Hand.collapsed_record {lead lead' : List Token} (hl : CollapsesTo lead lead')
    (fs : List Field) :
    collapsed true ((Hand.plain lead).record fs) = (Hand.tight lead').record fs :=
  congrArg (Token.mark '\x7b' :: ·) (Hand.collapsed_fields hl fs _)

/-- Nothing is trimmed of an interface under the name `_`. -/
theorem Hand.trimSpaces_record (h : Hand) (fs : List Field) :
    trimSpaces (charsOf (.word "interface".toList :: .mark ' ' :: nameToken "_" :: .mark ' '
        :: h.record fs))
      = charsOf (.word "interface".toList :: .mark ' ' :: nameToken "_" :: .mark ' '
        :: h.record fs) := by
  have hclosed : h.record fs = .mark '\x7b' :: (h.fields fs ++ h.close) ++ [.mark '\x7d'] := by
    rw [Hand.record, List.cons_append, List.append_assoc]
  rw [hclosed]
  exact trimSpaces_charsOf (by decide) (by decide) (by decide)
    (.mark ' ' :: nameToken "_" :: .mark ' ' :: .mark '\x7b' :: (h.fields fs ++ h.close))

/-- Tokens under the name `_` can be read. -/
theorem proper_underName {ts : List Token} (hts : Canonical.Proper ts) :
    Canonical.Proper (.word "interface".toList :: .mark ' ' :: nameToken "_" :: .mark ' ' :: ts) :=
  have hname : IsWordName "_" := isWordName_of_isIdentifier (by decide)
  have happart : Apart (.mark ' ' :: ts) := trivial
  ⟨by decide, by decide, trivial, by decide, proper_nameToken hname happart ⟨by decide, hts⟩⟩

/-- Fields declare nothing if their references do not. -/
theorem Hand.declarations_record {h : Hand} {declaredAs : String → List (List Char)}
    (hh : h.Shows declaredAs fun _ => []) {fs : List Field} (hfs : ∀ f ∈ fs, f.Clear) :
    declarations none (h.record fs) = [] := by
  have hnone : (fs.flatMap fun f => f.type.shown fun _ => []) = [] := by
    simp [TypeExpr.shown]
  rw [Hand.record, declarations_mark, Option.map_none, ite_self,
    Hand.declarations_fields hh fun f hf => (hfs f hf).reference, hnone, hh.close]
  rfl

/-- **A lead that is not seen**: what stands in front of type names, and what
is left of it behind a blank. Neither is taken for a declaration, and types
that begin with it can be told from all others. -/
structure SilentLead (lead lead' : List Token) : Prop where
  /-- The one becomes the other. -/
  collapses : CollapsesTo lead lead'
  /-- Names can be read behind the one. -/
  plain : ∀ {n ts}, IsWordName n → Apart ts → Canonical.Proper ts →
    Canonical.Proper (lead ++ nameToken n :: ts)
  /-- Names can be read behind the other. -/
  tight : ∀ {n ts}, IsWordName n → Apart ts → Canonical.Proper ts →
    Canonical.Proper (lead' ++ nameToken n :: ts)
  /-- References declare nothing. -/
  shows : ∃ declaredAs, (Hand.tight lead').Shows declaredAs fun _ => []
  /-- There are no marks but spaces. -/
  marks : ∀ c, Token.mark c ∈ lead' → c = ' '
  /-- It is shorter than any type of several words. -/
  short : lead'.length < 8

theorem IsBlankLead.silent {lead : List Token} (hl : IsBlankLead lead) : SilentLead lead [] where
  collapses := hl.collapsesTo
  plain := hl.proper
  tight := isBlankLead_nil.proper
  shows := ⟨_, Hand.tight_shows⟩
  marks _ hc := absurd hc List.not_mem_nil
  short := by decide

/-- A word that is no keyword is not seen in front of type names. -/
theorem silentLead_wordLead {q : String} (hq : IsWordName q) (hkey : isKeyword q.toList = false) :
    SilentLead (wordLead q '\n') (wordLead q ' ') where
  collapses := collapsesTo_wordLead q
  plain := proper_wordLead hq (by decide)
  tight := proper_wordLead hq (by decide)
  shows := by
    have hshows := Hand.tight_shows_wordLead q
    simp only [hkey, Bool.false_eq_true, if_false] at hshows
    exact ⟨_, hshows⟩
  marks c hc := by simpa [wordLead, nameToken] using hc
  short := by simp [wordLead]

section Silent

variable {lead lead' : List Token} (hl : SilentLead lead lead')

include hl

/-- Types are written with no marks but those of the language. -/
theorem SilentLead.mark_not_mem {c : Char} (hc : c ∉ [' ', '|', '[', ']']) (t : TypeExpr) :
    Token.mark c ∉ t.written (.tight lead') := by
  refine TypeExpr.mark_not_mem hc (fun n hn => ?_) t
  rcases List.mem_append.mp hn with hn | hn
  · exact hc (hl.marks c hn ▸ List.mem_cons_self)
  · simp [nameToken] at hn

/-- There is no `#` in a list of fields. -/
theorem SilentLead.hash_not_mem_record (fs : List Field) :
    Token.mark '#' ∉ (Hand.tight lead').record fs := by
  have htype : ∀ t : TypeExpr, Token.mark '#' ∉ t.written (.tight lead') :=
    hl.mark_not_mem (by decide)
  have hfield : ∀ f : Field, Token.mark '#' ∉ f.written (.tight lead') := by
    intro f
    have hname : (Hand.tight lead').field f.name = [nameToken f.name] := rfl
    rw [Field.written, hname]
    cases hf : f.optional <;> simp [Field.optionalMark, hf, htype, nameToken]
  simp only [Hand.record, Hand.fields, List.mem_cons, List.mem_append, List.mem_flatMap]
  rintro (h | ⟨f, -, h | h⟩ | h | h)
  · simp at h
  · simp [Hand.tight] at h
  · exact hfield f h
  · simp [Hand.tight] at h
  · simp at h

/-- Collapsed blanks leave an interface under the name `_` written
tightly. -/
theorem SilentLead.collapseBlanks_text {fs : List Field} (hfs : ∀ f ∈ fs, f.Clear) :
    collapseBlanks false (Interface.text ⟨"_", fs.map (Field.rename (led lead))⟩).toList
      = charsOf (.word "interface".toList :: .mark ' ' :: nameToken "_" :: .mark ' '
        :: (Hand.tight lead').record fs) := by
  rw [← Hand.charsOf_record, collapseBlanks_charsOf
    (proper_underName (Hand.proper_record (Hand.plain_proper hl.plain) hfs)),
    ← Hand.collapsed_record hl.collapses]
  rfl

/-- **A list of fields under the name `_`** is written tightly in the
canonical text. -/
theorem SilentLead.unnamed {fs : List Field} (hfs : ∀ f ∈ fs, f.Clear) :
    Unnamed (Interface.text ⟨"_", fs.map (Field.rename (led lead))⟩)
      ((Hand.tight lead').record fs) := by
  have hproper := Hand.proper_record (Hand.tight_proper hl.tight) hfs
  obtain ⟨declaredAs, hshows⟩ := hl.shows
  refine ⟨?_, hproper, Hand.declarations_record hshows hfs, hl.hash_not_mem_record fs⟩
  rw [hl.collapseBlanks_text hfs, Hand.trimSpaces_record, tokens_charsOf (proper_underName hproper)]

/-- What is written for a reference is written for no other type but it. -/
theorem SilentLead.reference_ne {n : String} (hn : IsClearName n) {us : List Token}
    (hus : us.length = 9 ∨ ∃ w ∈ interfaceWords, us = [.word w.toList]) :
    lead' ++ [nameToken n] ≠ us := by
  intro heq
  have hlength := congrArg List.length heq
  rw [List.length_append, List.length_singleton] at hlength
  have hshort := hl.short
  rcases hus with hus | ⟨w, hw, rfl⟩
  · omega
  · have hempty : lead' = [] := List.length_eq_zero_iff.mp (by simpa using hlength)
    rw [hempty, List.nil_append, nameToken, List.cons.injEq, Token.word.injEq,
      String.toList_inj] at heq
    exact hn.2 (heq.1 ▸ hw)

/-- **Types are read back** from what is written tightly. -/
theorem SilentLead.type_eq {t t' : TypeExpr} (ht : ∀ n, t.reference? = some n → IsClearName n)
    (ht' : ∀ n, t'.reference? = some n → IsClearName n)
    (hw : t.written (.tight lead') = t'.written (.tight lead')) : t' = t := by
  have hlast : ∀ n, ∃ w, ((Hand.tight lead').reference n).getLast? = some (.word w) :=
    fun n => ⟨n.toList, List.getLast?_concat⟩
  induction t generalizing t' with
  | array element ih =>
    obtain ⟨element', rfl⟩ := TypeExpr.exists_eq_array hlast hw.symm
    rw [TypeExpr.written, TypeExpr.written] at hw
    exact congrArg TypeExpr.array (ih ht ht' (List.append_cancel_right hw))
  | named n =>
    cases t' with
    | named n' =>
      have hname := List.append_cancel_left (show lead' ++ [nameToken n] = lead' ++ [nameToken n']
        from hw)
      simp only [nameToken, List.cons.injEq, Token.word.injEq, String.toList_inj, and_true] at hname
      rw [hname]
    | array element' =>
      obtain ⟨element, he⟩ := TypeExpr.exists_eq_array hlast hw
      exact absurd he (by simp)
    | queryValue => exact absurd hw (hl.reference_ne (ht n rfl) (Or.inl rfl))
    | _ => exact absurd hw (hl.reference_ne (ht n rfl) (Or.inr ⟨_, by decide, rfl⟩))
  | any | boolean | number | string | queryValue =>
    cases t' with
    | named n' =>
      refine absurd hw.symm (hl.reference_ne (ht' n' rfl) ?_)
      first | exact Or.inl rfl | exact Or.inr ⟨_, by decide, rfl⟩
    | array element' =>
      obtain ⟨element, he⟩ := TypeExpr.exists_eq_array hlast hw
      exact absurd he (by simp)
    | _ =>
      simp only [TypeExpr.written] at hw
      first | rfl | exact absurd hw (by decide)

/-- **Lists of fields are read back** from what is written tightly. -/
theorem SilentLead.fields_eq {fs fs' : List Field} (hfs : ∀ f ∈ fs, f.Clear)
    (hfs' : ∀ f ∈ fs', f.Clear)
    (hw : (Hand.tight lead').record fs = (Hand.tight lead').record fs') : fs' = fs := by
  have hfield : (Hand.tight lead').field = slot [] := rfl
  have hid : counterpart [] [] = id := funext (counterpart_self [])
  have hends : ∀ ms n ts ts', (Hand.tight lead').indent ++ (slot ms n ++ ts)
      ≠ (Hand.tight lead').close ++ .mark '\x7d' :: ts' :=
    fun ms n ts ts' h => slot_ends ms n ts ts' (List.cons.inj h).2
  have hend : ∀ t : TypeExpr, Token.mark ';' ∉ t.written (.tight lead') :=
    hl.mark_not_mem (by decide)
  have hread : ∀ f ∈ fs, ∀ f' ∈ fs', ∀ {ts ts'},
      f.written (.tight lead') ++ ts = f'.written (.tight lead') ++ ts' →
      f' = f.relabel (counterpart [] []) ∧ ts = ts' := by
    intro f hf f' hf' ts ts' heq
    refine Field.read_of hfield hfield (hend f.type) (hend f'.type) (fun htype => ?_) heq
    rw [hid, TypeExpr.rename_id]
    exact hl.type_eq (hfs f hf).reference (hfs' f' hf').reference htype
  obtain ⟨hmap, -⟩ := Hand.fields_read hfield hfield rfl hends hread (List.cons.inj hw).2
  rw [hmap, hid, List.map_congr_left (g := id) fun f _ => ?_, List.map_id]
  rw [Field.relabel, TypeExpr.rename_id, id_eq, id_eq]

/-- **The canonical text under the name `_` tells lists of fields apart**,
when what stands in front of their types is not seen. -/
theorem SilentLead.fields_eq_of_canonical_eq {fs fs' : List Field} (hfs : ∀ f ∈ fs, f.Clear)
    (hfs' : ∀ f ∈ fs', f.Clear)
    (h : canonical (Interface.text ⟨"_", fs.map (Field.rename (led lead))⟩)
      = canonical (Interface.text ⟨"_", fs'.map (Field.rename (led lead))⟩)) : fs' = fs :=
  hl.fields_eq hfs hfs' ((hl.unnamed hfs).tokens_eq_of_canonical_eq (hl.unnamed hfs') h)

end Silent

end TypedTraffic
