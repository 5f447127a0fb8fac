import TypedTraffic.Proofs.Declaration.Written

/-!
# The names behind the keywords

The text of a legible definition has the tokens it was written with, so
the names that stand behind the keywords of its text are the names it
declares, in order and without omission, whatever its fields are called
(`headers_text`): a field called `type` or `interface` is followed by a
colon and never by a blank.

This holds in any hand whose gaps are blanks, and also when a blank
stands in front of every type name.
-/

namespace TypedTraffic

open Naming Text

namespace Canonical

/-! ## Proper tokens -/

/-- The next token is no word. -/
def Apart : List Token → Prop
  | .word _ :: _ => False
  | _ => True

/-- **Proper tokens**: words are made of word characters and stand apart,
marks are no word characters. -/
def Proper : List Token → Prop
  | [] => True
  | .mark c :: ts => isWord c = false ∧ Proper ts
  | .word w :: ts => w ≠ [] ∧ (∀ c ∈ w, isWord c = true) ∧ Apart ts ∧ Proper ts

theorem push_of_apart {c : Char} {ts : List Token} (hc : isWord c = true) (hts : Apart ts) :
    Token.push c ts = .word [c] :: ts := by
  unfold Token.push
  rw [if_pos hc]
  cases ts with
  | nil => rfl
  | cons t ts =>
    cases t with
    | word w => exact absurd hts id
    | mark d => rfl

/-- **Reading proper tokens gives them back.** -/
theorem tokens_charsOf {ts : List Token} (h : Proper ts) : tokens (charsOf ts) = ts := by
  induction ts with
  | nil => rfl
  | cons t ts ih =>
    cases t with
    | mark c =>
      have hpush : tokens (charsOf (.mark c :: ts)) = Token.push c (tokens (charsOf ts)) := rfl
      rw [hpush, ih h.2]
      simp [Token.push, h.1]
    | word w =>
      obtain ⟨hne, hw, hts, hp⟩ := h
      have hword : ∀ v : List Char, v ≠ [] → (∀ c ∈ v, isWord c = true) →
          v.foldr Token.push ts = .word v :: ts := by
        intro v
        induction v with
        | nil => exact fun hv => absurd rfl hv
        | cons c v ihv =>
          intro _ hv
          have hc := hv c List.mem_cons_self
          rw [List.foldr_cons]
          cases v with
          | nil => exact push_of_apart hc hts
          | cons d v =>
            rw [ihv (by simp) (fun x hx => hv x (List.mem_cons_of_mem _ hx)), Token.push,
              if_pos hc]
      have hfold : tokens (charsOf (.word w :: ts)) = w.foldr Token.push (tokens (charsOf ts)) := by
        rw [charsOf_cons, tokens, List.foldr_append]
        rfl
      rw [hfold, ih hp, hword w hne hw]

theorem Proper.append_marks (marks : List Char) {ts : List Token}
    (hm : ∀ c ∈ marks, isWord c = false) (h : Proper ts) : Proper (marks.map .mark ++ ts) := by
  induction marks with
  | nil => exact h
  | cons c marks ih =>
    exact ⟨hm c List.mem_cons_self, ih fun d hd => hm d (List.mem_cons_of_mem _ hd)⟩

/-- The token of a word is proper. -/
theorem proper_nameToken {n : String} {ts : List Token} (hn : IsWordName n)
    (hts : Apart ts) (h : Proper ts) : Proper (nameToken n :: ts) := by
  obtain ⟨c, cs, hs, -⟩ := hn.first
  exact ⟨by rw [hs]; simp, hn.word, hts, h⟩

end Canonical

open Canonical

/-- **A hand that writes proper tokens.** -/
structure Hand.Proper (h : Hand) : Prop where
  /-- Gaps are marks. -/
  indent : ∀ {ts}, Canonical.Proper ts → Canonical.Proper (h.indent ++ ts)
  /-- Gaps are marks. -/
  close : ∀ {ts}, Canonical.Proper ts → Canonical.Proper (h.close ++ ts)
  /-- Gaps are marks. -/
  between : ∀ {ts}, Canonical.Proper ts → Canonical.Proper (h.between ++ ts)
  /-- Declared names are proper. -/
  declared : ∀ {n ts}, IsClearName n → Apart ts → Canonical.Proper ts →
    Canonical.Proper (h.declared n ++ ts)
  /-- References are proper. -/
  reference : ∀ {n ts}, IsClearName n → Apart ts → Canonical.Proper ts →
    Canonical.Proper (h.reference n ++ ts)
  /-- The names of fields are proper. -/
  field : ∀ {n ts}, IsWordName n → Apart ts → Canonical.Proper ts →
    Canonical.Proper (h.field n ++ ts)

section Proper

variable {h : Hand}

theorem TypeExpr.proper_written (hh : h.Proper) {t : TypeExpr}
    (ht : ∀ n, t.reference? = some n → IsClearName n) {ts : List Token} (hapart : Apart ts)
    (hts : Canonical.Proper ts) : Canonical.Proper (t.written h ++ ts) := by
  induction t generalizing ts with
  | named n => exact hh.reference (ht n rfl) hapart hts
  | array element ih =>
    rw [written, List.append_assoc]
    exact ih ht trivial ⟨by decide, by decide, hts⟩
  | queryValue =>
    have hbool : Canonical.Proper (.word "boolean".toList :: ts) :=
      ⟨by decide, by decide, hapart, hts⟩
    exact ⟨by decide, by decide, trivial, by decide, by decide, by decide, by decide, by decide,
      trivial, by decide, by decide, by decide, hbool⟩
  | any => exact ⟨by decide, by decide, hapart, hts⟩
  | boolean => exact ⟨by decide, by decide, hapart, hts⟩
  | number => exact ⟨by decide, by decide, hapart, hts⟩
  | string => exact ⟨by decide, by decide, hapart, hts⟩

theorem Field.proper_written (hh : h.Proper) {f : Field} (hf : IsWordName f.name)
    (ht : ∀ n, f.type.reference? = some n → IsClearName n) {ts : List Token}
    (hts : Canonical.Proper ts) : Canonical.Proper (f.written h ++ ts) := by
  have htype : Canonical.Proper (f.type.written h ++ .mark ';' :: ts) :=
    TypeExpr.proper_written hh ht trivial ⟨by decide, hts⟩
  unfold Field.written Field.optionalMark
  cases f.optional
  · simp only [Bool.false_eq_true, if_false, List.append_nil, List.append_assoc, List.cons_append,
      List.nil_append]
    exact hh.field hf trivial ⟨by decide, by decide, htype⟩
  · simp only [if_true, List.append_assoc, List.cons_append, List.nil_append]
    exact hh.field hf trivial ⟨by decide, by decide, by decide, htype⟩

theorem Hand.proper_fields (hh : h.Proper) {fs : List Field} (hf : ∀ f ∈ fs, IsWordName f.name)
    (ht : ∀ f ∈ fs, ∀ n, f.type.reference? = some n → IsClearName n) {ts : List Token}
    (hts : Canonical.Proper ts) : Canonical.Proper (h.fields fs ++ ts) := by
  induction fs with
  | nil => exact hts
  | cons f fs ih =>
    rw [Hand.fields_cons, List.append_assoc, List.append_assoc]
    exact hh.indent (Field.proper_written hh (hf f List.mem_cons_self) (ht f List.mem_cons_self)
      (ih (fun g hg => hf g (List.mem_cons_of_mem _ hg))
        fun g hg => ht g (List.mem_cons_of_mem _ hg)))

theorem Interface.proper_written (hh : h.Proper) {i : Interface} (hname : IsClearName i.name)
    (hf : ∀ f ∈ i.fields, IsWordName f.name)
    (ht : ∀ f ∈ i.fields, ∀ n, f.type.reference? = some n → IsClearName n) {ts : List Token}
    (hts : Canonical.Proper ts) : Canonical.Proper (i.written h ++ ts) := by
  rw [Interface.written]
  simp only [List.append_assoc, List.cons_append, List.nil_append]
  refine ⟨by decide, by decide, trivial, by decide, hh.declared hname trivial ⟨by decide, ?_⟩⟩
  exact Hand.proper_fields hh hf ht (hh.close ⟨by decide, hts⟩)

/-- **What a proper hand writes of a clear definition is proper.** -/
theorem Definition.proper_written (hh : h.Proper) {d : Definition} (hd : d.Clear) :
    Canonical.Proper (d.written h) := by
  cases d with
  | interfaces root auxiliary =>
    have hi : ∀ i ∈ root :: auxiliary, ∀ ts, Canonical.Proper ts →
        Canonical.Proper (i.written h ++ ts) := by
      intro i hi ts hts
      refine Interface.proper_written hh (hd.names _ (List.mem_map_of_mem hi)) (fun f hf => ?_)
        (fun f hf n hn => ?_) hts
      · exact hd.fieldNames _ (List.mem_map_of_mem (List.mem_flatMap.mpr ⟨i, hi, hf⟩))
      · exact hd.references n (mem_references.mpr ⟨f, List.mem_flatMap.mpr ⟨i, hi, hf⟩, hn⟩)
    have haux : ∀ is : List Interface, (∀ i ∈ is, i ∈ auxiliary) →
        Canonical.Proper (h.interfaces is) := by
      intro is
      induction is with
      | nil => exact fun _ => trivial
      | cons i is ih =>
        intro hsub
        rw [Hand.interfaces_cons, List.append_assoc]
        exact hh.between (hi i (List.mem_cons_of_mem _ (hsub i List.mem_cons_self)) _
          (ih fun j hj => hsub j (List.mem_cons_of_mem _ hj)))
    exact hi root List.mem_cons_self _ (haux auxiliary fun _ hi => hi)
  | «alias» name target =>
    have htarget : Canonical.Proper (target.written ++ [.mark ';']) := by
      cases target
      · exact ⟨by decide, by decide, trivial, by decide, trivial⟩
      · exact ⟨by decide, by decide, trivial, by decide, by decide, by decide, trivial, by decide,
          by decide, by decide, by decide, trivial, by decide, by decide, trivial⟩
    rw [Definition.written]
    simp only [List.append_assoc, List.cons_append]
    exact ⟨by decide, by decide, trivial, by decide,
      hh.declared (hd.names _ List.mem_cons_self) trivial ⟨by decide, by decide, htarget⟩⟩

end Proper

/-! ## The names found behind the keywords -/

namespace Canonical

/-- **The names behind the keywords of a text**, with repetitions. -/
def headers (text : String) : List String :=
  (declarations none (tokens text.toList)).map String.ofList

/-- The names a text declares are those behind its keywords. -/
theorem declaredNames_eq (text : String) :
    declaredNames text = Ordered.distinct (headers text) := rfl

theorem declarations_mark (pending : Option Bool) (c : Char) (ts : List Token) :
    declarations pending (.mark c :: ts)
      = declarations (if isBlank c then pending.map fun _ => true else none) ts := by
  cases pending with
  | none => rfl
  | some b => cases b <;> rfl

theorem declarations_word (w : List Char) (ts : List Token) :
    declarations none (.word w :: ts)
      = declarations (if isKeyword w then some false else none) ts := rfl

/-- Marks between declarations declare nothing. -/
theorem declarations_marks (marks : List Char) (ts : List Token) :
    declarations none (marks.map .mark ++ ts) = declarations none ts := by
  induction marks with
  | nil => rfl
  | cons c marks ih =>
    rw [List.map_cons, List.cons_append, declarations_mark, Option.map_none, ite_self, ih]

/-- A word with a mark behind it that is no blank declares nothing. -/
theorem declarations_word_mark (w : List Char) {c : Char} (hc : isBlank c = false)
    (ts : List Token) : declarations none (.word w :: .mark c :: ts) = declarations none ts := by
  rw [declarations_word, declarations_mark, hc]
  rfl

/-- A word that is no keyword declares nothing. -/
theorem declarations_word_of_not_isKeyword {w : List Char} (hw : isKeyword w = false)
    (ts : List Token) : declarations none (.word w :: ts) = declarations none ts := by
  rw [declarations_word, hw]
  rfl

end Canonical

/-- **What a hand shows as declared**: for each name the words that stand
behind a keyword and a blank, where the name is declared and where it is
referred to. Nothing else looks like a declaration. -/
structure Hand.Shows (h : Hand) (declaredAs referredAs : String → List (List Char)) : Prop where
  /-- Gaps declare nothing. -/
  indent : ∀ ts, declarations none (h.indent ++ ts) = declarations none ts
  /-- Gaps declare nothing. -/
  close : ∀ ts, declarations none (h.close ++ ts) = declarations none ts
  /-- Gaps declare nothing. -/
  between : ∀ ts, declarations none (h.between ++ ts) = declarations none ts
  /-- What is found behind a keyword. -/
  declared : ∀ {n} ts, IsClearName n →
    declarations (some true) (h.declared n ++ ts) = declaredAs n ++ declarations none ts
  /-- What is found in a reference. -/
  reference : ∀ {n c} ts, IsClearName n → isBlank c = false →
    declarations none (h.reference n ++ .mark c :: ts) = referredAs n ++ declarations none ts
  /-- The names of fields declare nothing. -/
  field : ∀ n {c} ts, isBlank c = false →
    declarations none (h.field n ++ .mark c :: ts) = declarations none ts

/-- What is shown of a type. -/
def TypeExpr.shown (referredAs : String → List (List Char)) (t : TypeExpr) : List (List Char) :=
  t.reference?.toList.flatMap referredAs

/-- What is shown of an interface. -/
def Interface.shown (declaredAs referredAs : String → List (List Char)) (i : Interface) :
    List (List Char) :=
  declaredAs i.name ++ i.fields.flatMap fun f => f.type.shown referredAs

/-- **What is shown of a definition.** -/
def Definition.shown (declaredAs referredAs : String → List (List Char)) :
    Definition → List (List Char)
  | .interfaces root auxiliary =>
    (root :: auxiliary).flatMap (Interface.shown declaredAs referredAs)
  | .alias name _ => declaredAs name

section Shows

variable {h : Hand} {declaredAs referredAs : String → List (List Char)}
  (hh : h.Shows declaredAs referredAs)

include hh

theorem TypeExpr.declarations_written {t : TypeExpr}
    (ht : ∀ n, t.reference? = some n → IsClearName n) {c : Char} (hc : isBlank c = false)
    (ts : List Token) :
    declarations none (t.written h ++ .mark c :: ts)
      = t.shown referredAs ++ declarations none ts := by
  induction t generalizing c ts with
  | named n =>
    rw [shown, reference?, Option.toList_some, List.flatMap_singleton]
    exact hh.reference ts (ht n rfl) hc
  | array element ih =>
    rw [written, List.append_assoc]
    refine (ih ht (by decide) _).trans (congrArg (element.shown referredAs ++ ·) ?_)
    exact declarations_marks [']', c] ts
  | queryValue =>
    refine (declarations_word_of_not_isKeyword (by decide) _).trans ?_
    refine (declarations_marks [' ', '|', ' '] _).trans ?_
    refine (declarations_word_of_not_isKeyword (by decide) _).trans ?_
    refine (declarations_marks [' ', '|', ' '] _).trans ?_
    exact declarations_word_mark _ hc ts
  | any => exact declarations_word_mark _ hc ts
  | boolean => exact declarations_word_mark _ hc ts
  | number => exact declarations_word_mark _ hc ts
  | string => exact declarations_word_mark _ hc ts

theorem Field.declarations_written {f : Field}
    (hf : ∀ n, f.type.reference? = some n → IsClearName n) (ts : List Token) :
    declarations none (f.written h ++ ts) = f.type.shown referredAs ++ declarations none ts := by
  have htype : declarations none (f.type.written h ++ .mark ';' :: ts)
      = f.type.shown referredAs ++ declarations none ts :=
    TypeExpr.declarations_written hh hf (by decide) ts
  unfold Field.written Field.optionalMark
  cases f.optional
  · simp only [Bool.false_eq_true, if_false, List.append_nil, List.append_assoc, List.cons_append,
      List.nil_append]
    rw [hh.field _ _ (by decide)]
    exact (declarations_marks [' '] _).trans htype
  · simp only [if_true, List.append_assoc, List.cons_append, List.nil_append]
    rw [hh.field _ _ (by decide)]
    exact (declarations_marks [':', ' '] _).trans htype

theorem Hand.declarations_fields {fs : List Field}
    (hfs : ∀ f ∈ fs, ∀ n, f.type.reference? = some n → IsClearName n) (ts : List Token) :
    declarations none (h.fields fs ++ ts)
      = (fs.flatMap fun f => f.type.shown referredAs) ++ declarations none ts := by
  induction fs with
  | nil => rfl
  | cons f fs ih =>
    rw [Hand.fields_cons, List.append_assoc, List.append_assoc, hh.indent,
      Field.declarations_written hh (hfs f List.mem_cons_self),
      ih fun g hg => hfs g (List.mem_cons_of_mem _ hg), List.flatMap_cons, List.append_assoc]

theorem Interface.declarations_written {i : Interface} (hname : IsClearName i.name)
    (hi : ∀ f ∈ i.fields, ∀ n, f.type.reference? = some n → IsClearName n) (ts : List Token) :
    declarations none (i.written h ++ ts)
      = i.shown declaredAs referredAs ++ declarations none ts := by
  have hend : declarations none (h.close ++ .mark '\x7d' :: ts) = declarations none ts :=
    (hh.close _).trans (declarations_marks ['\x7d'] ts)
  rw [Interface.written]
  simp only [List.append_assoc, List.cons_append, List.nil_append]
  refine (hh.declared _ hname).trans ?_
  rw [declarations_mark, Option.map_none, ite_self, Hand.declarations_fields hh hi, hend,
    Interface.shown, List.append_assoc]

/-- **What is found behind the keywords** of what a hand writes is what
the hand shows. -/
theorem Definition.declarations_written {d : Definition} (hd : d.Clear) :
    declarations none (d.written h) = d.shown declaredAs referredAs := by
  cases d with
  | interfaces root auxiliary =>
    have hi : ∀ i ∈ root :: auxiliary, ∀ ts, declarations none (i.written h ++ ts)
        = i.shown declaredAs referredAs ++ declarations none ts := by
      intro i hi ts
      refine Interface.declarations_written hh (hd.names _ (List.mem_map_of_mem hi))
        (fun f hf n hn => hd.references n (mem_references.mpr ⟨f, ?_, hn⟩)) ts
      exact List.mem_flatMap.mpr ⟨i, hi, hf⟩
    have haux : ∀ is : List Interface, (∀ i ∈ is, i ∈ root :: auxiliary) →
        declarations none (h.interfaces is)
          = is.flatMap (Interface.shown declaredAs referredAs) := by
      intro is
      induction is with
      | nil => exact fun _ => rfl
      | cons i is ih =>
        intro hsub
        rw [Hand.interfaces_cons, List.append_assoc, hh.between, hi i (hsub i List.mem_cons_self),
          ih fun j hj => hsub j (List.mem_cons_of_mem _ hj), List.flatMap_cons]
    rw [Definition.written, hi root List.mem_cons_self,
      haux auxiliary fun j hj => List.mem_cons_of_mem _ hj, Definition.shown, List.flatMap_cons]
  | «alias» name target =>
    have htarget :
        declarations none (.mark '=' :: .mark ' ' :: (target.written ++ [.mark ';'])) = [] := by
      cases target <;> rfl
    rw [Definition.written]
    simp only [List.append_assoc, List.cons_append]
    refine (hh.declared _ (hd.names _ List.mem_cons_self)).trans ?_
    rw [htarget, List.append_nil, Definition.shown]

omit hh

/-- A hand that shows declared names and nothing in references shows the
names of a definition. -/
theorem Definition.shown_names (d : Definition) :
    d.shown (fun n => [n.toList]) (fun _ => []) = d.names.map String.toList := by
  have hi : ∀ i : Interface,
      i.shown (fun n => [n.toList]) (fun _ => []) = [i.name.toList] := by
    intro i
    simp [Interface.shown, TypeExpr.shown]
  cases d with
  | interfaces root auxiliary =>
    rw [Definition.shown, List.flatMap_congr (fun i _ => hi i), Definition.names, List.map_map]
    exact (List.map_eq_flatMap).symm
  | «alias» name target => rfl

end Shows

/-! ## Definitions whose type names have blanks in front -/

/-- Marks in front of names that no reader of the text takes for a part
of them. -/
def IsBlankLead (lead : List Token) : Prop :=
  ∃ cs : List Char, lead = cs.map .mark ∧ ∀ c ∈ cs, isBlank c = true ∧ isWord c = false

theorem isBlankLead_nil : IsBlankLead [] := ⟨[], rfl, by simp⟩

theorem isBlankLead_newline : IsBlankLead [.mark '\n'] := ⟨['\n'], rfl, by decide⟩

section Blank

variable {lead : List Token}

theorem IsBlankLead.declarations (hl : IsBlankLead lead) (n : String) (ts : List Token) :
    declarations (some true) (lead ++ nameToken n :: ts) = n.toList :: declarations none ts := by
  obtain ⟨cs, rfl, hcs⟩ := hl
  induction cs with
  | nil => rfl
  | cons c cs ih =>
    rw [List.map_cons, List.cons_append, declarations_mark, (hcs c List.mem_cons_self).1]
    exact ih fun d hd => hcs d (List.mem_cons_of_mem _ hd)

theorem Hand.plain_proper
    (hl : ∀ {n ts}, IsWordName n → Apart ts → Canonical.Proper ts →
      Canonical.Proper (lead ++ nameToken n :: ts)) : (Hand.plain lead).Proper where
  indent h := h.append_marks ['\n', ' ', ' '] (by decide)
  close h := h.append_marks ['\n'] (by decide)
  between h := h.append_marks ['\n', '\n'] (by decide)
  declared {n ts} hn ha h := by
    have hgap : Canonical.Proper (.mark ' ' :: ts) := ⟨by decide, h⟩
    have happart : Apart (.mark ' ' :: ts) := trivial
    simpa [Hand.plain] using hl hn.1 happart hgap
  reference hn ha h := by simpa [Hand.plain] using hl hn.1 ha h
  field hn ha h := proper_nameToken hn ha h

theorem Hand.tight_proper
    (hl : ∀ {n ts}, IsWordName n → Apart ts → Canonical.Proper ts →
      Canonical.Proper (lead ++ nameToken n :: ts)) : (Hand.tight lead).Proper where
  indent h := h.append_marks [' '] (by decide)
  close h := h.append_marks [' '] (by decide)
  between h := h.append_marks [' '] (by decide)
  declared {n ts} hn ha h := by
    have hgap : Canonical.Proper (.mark ' ' :: ts) := ⟨by decide, h⟩
    have happart : Apart (.mark ' ' :: ts) := trivial
    simpa [Hand.tight] using hl hn.1 happart hgap
  reference hn ha h := by simpa [Hand.tight] using hl hn.1 ha h
  field hn ha h := proper_nameToken hn ha h

theorem IsBlankLead.proper (hl : IsBlankLead lead) {n : String} {ts : List Token}
    (hn : IsWordName n) (ha : Apart ts) (h : Canonical.Proper ts) :
    Canonical.Proper (lead ++ nameToken n :: ts) := by
  obtain ⟨cs, rfl, hcs⟩ := hl
  exact (proper_nameToken hn ha h).append_marks cs fun c hc => (hcs c hc).2

theorem Hand.plain_shows (hl : IsBlankLead lead) :
    (Hand.plain lead).Shows (fun n => [n.toList]) (fun _ => []) where
  indent := declarations_marks ['\n', ' ', ' ']
  close := declarations_marks ['\n']
  between := declarations_marks ['\n', '\n']
  declared {n} ts _ := by
    have h := hl.declarations n (.mark ' ' :: ts)
    rw [declarations_mark, Option.map_none, ite_self] at h
    simpa [Hand.plain] using h
  reference {n c} ts _ hc := by
    obtain ⟨cs, rfl, -⟩ := hl
    have h := declarations_marks cs (nameToken n :: .mark c :: ts)
    rw [nameToken, declarations_word_mark _ hc] at h
    simpa [Hand.plain, nameToken] using h
  field _ _ ts hc := declarations_word_mark _ hc ts

/-- **The names behind the keywords of a definition's text are the names
it declares**, in order and without omission. -/
theorem Definition.headers_text (hl : IsBlankLead lead) {d : Definition} (hd : d.Legible) :
    headers (d.rename (led lead)).text = d.names := by
  have htokens : tokens (d.rename (led lead)).text.toList = d.written (.plain lead) := by
    rw [← Definition.charsOf_written]
    exact tokens_charsOf (Definition.proper_written (Hand.plain_proper hl.proper) hd.clear)
  rw [headers, htokens, Definition.declarations_written (Hand.plain_shows hl) hd.clear,
    Definition.shown_names, List.map_map, List.map_congr_left (g := id) (fun n _ => ?_),
    List.map_id]
  exact String.ofList_toList

end Blank

end TypedTraffic
