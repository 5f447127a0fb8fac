import TypedTraffic.Proofs.Declaration.Marked

/-!
# Reading a definition back

What a hand writes of a definition is read in one way only: the space
behind a gap tells a field from a closing brace, a semicolon ends a type.
So two legible definitions of one text are equal (`eq_of_text_eq`).

From a canonical text a definition is read up to **relabelling**: its
declared names may be any others, and each of them is then changed
wherever it stands, in declarations, in references and in the names of
fields (`eq_relabel_of_canonical_eq`). A relabelling is more than a
renaming of types. Two definitions of one canonical text have the same
shape exactly when no name that is relabelled is the name of a field
(`sameShape_iff_of_canonical_eq`).
-/

namespace TypedTraffic

open Naming Text Canonical

/-! ## Relabelling -/

/-- A field with its name and the references of its type renamed. -/
def Field.relabel (ρ : String → String) (f : Field) : Field :=
  ⟨ρ f.name, f.type.rename ρ, f.optional⟩

/-- An interface with all its names renamed, those of its fields too. -/
def Interface.relabel (ρ : String → String) (i : Interface) : Interface :=
  ⟨ρ i.name, i.fields.map (Field.relabel ρ)⟩

/-- **A definition with all its names renamed**, those of its fields
too. -/
def Definition.relabel (ρ : String → String) : Definition → Definition
  | .interfaces root auxiliary => .interfaces (root.relabel ρ) (auxiliary.map (Interface.relabel ρ))
  | .alias name target => .alias (ρ name) target

/-- An interface is relabelled if its name and its fields are. -/
theorem Interface.eq_relabel {ρ : String → String} {i i' : Interface} (hname : ρ i.name = i'.name)
    (hfields : i'.fields = i.fields.map (Field.relabel ρ)) : i' = i.relabel ρ := by
  cases i' with
  | mk name' fields' =>
    subst hname hfields
    rfl

theorem Definition.fieldNames_relabel (ρ : String → String) (d : Definition) :
    (d.relabel ρ).fieldNames = d.fieldNames.map ρ := by
  have hall : (d.relabel ρ).all = d.all.map (Interface.relabel ρ) := by
    cases d <;> rfl
  simp only [Definition.fieldNames, Definition.fields, hall, List.flatMap_map, List.map_flatMap,
    Interface.relabel, List.map_map]
  rfl

/-- A relabelling that leaves the names of the fields alone is a
renaming of types. -/
theorem Definition.relabel_eq_rename {ρ : String → String} {d : Definition}
    (h : ∀ f ∈ d.fieldNames, ρ f = f) : d.relabel ρ = d.rename ρ := by
  cases d with
  | interfaces root auxiliary =>
    have hi : ∀ i ∈ root :: auxiliary, i.relabel ρ = i.rename ρ := by
      intro i hi
      refine congrArg (Interface.mk _) (List.map_congr_left fun f hf => ?_)
      have hname : ρ f.name = f.name :=
        h _ (List.mem_map_of_mem (List.mem_flatMap.mpr ⟨i, hi, hf⟩))
      simp only [Field.relabel, Field.rename, hname]
    simp only [Definition.relabel, Definition.rename]
    rw [hi root List.mem_cons_self,
      List.map_congr_left fun i h => hi i (List.mem_cons_of_mem _ h)]
  | «alias» name target => rfl

/-- **The counterpart of a name**: the name in the same place of another
list of names. -/
def counterpart (ns ns' : List String) (n : String) : String :=
  if n ∈ ns then ns'[ns.idxOf n]?.getD n else n

/-- A name is its own counterpart among the same names. -/
theorem counterpart_self (ns : List String) (n : String) : counterpart ns ns n = n := by
  unfold counterpart
  split
  · rename_i hn
    rw [List.getElem?_eq_getElem (List.idxOf_lt_length_of_mem hn), List.getElem_idxOf,
      Option.getD_some]
  · rfl

/-- The counterparts of pairwise different names, in order. -/
theorem map_counterpart {ns ns' : List String} (h : ns.Nodup) (hlen : ns'.length = ns.length) :
    ns.map (counterpart ns ns') = ns' := by
  refine List.ext_getElem (by rw [List.length_map, hlen]) fun i hi hi' => ?_
  rw [List.length_map] at hi
  rw [List.getElem_map, counterpart, if_pos (List.getElem_mem hi), h.idxOf_getElem,
    List.getElem?_eq_getElem hi', Option.getD_some]

/-- Two lists are cut alike at the first occurrence of an element. -/
theorem append_cons_inj {α : Type} {a : α} {xs ys us vs : List α} (hx : a ∉ xs) (hy : a ∉ ys)
    (h : xs ++ a :: us = ys ++ a :: vs) : xs = ys ∧ us = vs := by
  induction xs generalizing ys with
  | nil =>
    cases ys with
    | nil => exact ⟨rfl, (List.cons.inj h).2⟩
    | cons y ys => exact absurd (List.cons.inj h).1 fun e => hy (e ▸ List.mem_cons_self)
  | cons x xs ih =>
    cases ys with
    | nil => exact absurd (List.cons.inj h).1 fun e => hx (e ▸ List.mem_cons_self)
    | cons y ys =>
      obtain ⟨rfl, htail⟩ := List.cons.inj h
      obtain ⟨rfl, hrest⟩ := ih (fun hm => hx (List.mem_cons_of_mem _ hm))
        (fun hm => hy (List.mem_cons_of_mem _ hm)) htail
      exact ⟨rfl, hrest⟩

/-- What is written alike among two lists of names is a name and its
counterpart. -/
theorem slot_append_inj {ns ns' : List String} {n n' : String} {ts ts' : List Token}
    (h : slot ns n ++ ts = slot ns' n' ++ ts') : n' = counterpart ns ns' n ∧ ts = ts' := by
  unfold slot at h
  split at h <;> split at h
  · rename_i hn hn'
    simp only [placeholder, List.cons_append, List.nil_append, List.cons.injEq,
      Token.word.injEq, true_and] at h
    have hidx := toDigits_injective h.1
    refine ⟨?_, h.2⟩
    rw [counterpart, if_pos hn, hidx,
      List.getElem?_eq_getElem (List.idxOf_lt_length_of_mem hn'), List.getElem_idxOf,
      Option.getD_some]
  · exact absurd h (by simp [placeholder, nameToken])
  · exact absurd h (by simp [placeholder, nameToken])
  · rename_i hn hn'
    simp only [nameToken, List.cons_append, List.nil_append, List.cons.injEq,
      Token.word.injEq] at h
    refine ⟨?_, h.2⟩
    rw [counterpart, if_neg hn, String.toList_inj.mp h.1]

theorem slot_inj {ns ns' : List String} {n n' : String} (h : slot ns n = slot ns' n') :
    n' = counterpart ns ns' n := by
  have happ : slot ns n ++ [] = slot ns' n' ++ [] := by rw [h]
  exact (slot_append_inj happ).1

/-! ## Hands that are read alike -/

/-- **Two hands that are read alike**: names are written in slots, gaps
are the same, and behind a gap a field is told from a closing brace. -/
structure Hand.Alike (ns ns' : List String) (h h' : Hand) : Prop where
  /-- References are written in slots. -/
  reference : h.reference = slot ns
  /-- References are written in slots. -/
  reference' : h'.reference = slot ns'
  /-- The names of fields are written in slots. -/
  field : h.field = slot ns
  /-- The names of fields are written in slots. -/
  field' : h'.field = slot ns'
  /-- The gaps are the same. -/
  indent : h'.indent = h.indent
  /-- The gaps are the same. -/
  close : h'.close = h.close
  /-- The gaps are the same. -/
  between : h'.between = h.between
  /-- Declared names take equally much place. -/
  declared : ∀ {n n' c ts ts'}, h.declared n ++ .mark c :: ts = h'.declared n' ++ .mark c :: ts' →
    ts = ts'
  /-- A field is told from a closing brace. -/
  ends : ∀ ms n ts ts', h.indent ++ (slot ms n ++ ts) ≠ h.close ++ .mark '\x7d' :: ts'

theorem slot_ends (ms : List String) (n : String) (ts ts' : List Token) :
    slot ms n ++ ts ≠ .mark '\x7d' :: ts' := by
  unfold slot
  split <;> simp [placeholder, nameToken]

/-- Texts are read alike. -/
theorem Hand.plain_alike : Hand.Alike [] [] (.plain []) (.plain []) where
  reference := rfl
  reference' := rfl
  field := rfl
  field' := rfl
  indent := rfl
  close := rfl
  between := rfl
  declared h := by
    simp only [Hand.plain, List.nil_append, List.cons_append, List.cons.injEq] at h
    exact h.2.2.2
  ends ms n ts ts' := by simp [Hand.plain]

/-- Canonical texts are read alike. -/
theorem Hand.erased_alike (ns ns' : List String) :
    Hand.Alike ns ns' (.erased ns) (.erased ns') where
  reference := rfl
  reference' := rfl
  field := rfl
  field' := rfl
  indent := rfl
  close := rfl
  between := rfl
  declared h := (List.cons.inj h).2
  ends ms n ts ts' h := slot_ends ms n ts ts' (List.cons.inj h).2

section Alike

variable {ns ns' : List String} {h h' : Hand}

/-- Types are written with spaces, bars and brackets, and with what
references are written with. -/
theorem TypeExpr.mark_not_mem {h : Hand} {c : Char} (hc : c ∉ [' ', '|', '[', ']'])
    (hr : ∀ n, Token.mark c ∉ h.reference n) (t : TypeExpr) : Token.mark c ∉ t.written h := by
  simp only [List.mem_cons, List.not_mem_nil, or_false, not_or] at hc
  induction t with
  | named n => exact hr n
  | array element ih => simp [written, ih, hc]
  | _ => simp [written, hc]

/-- No type is written with a semicolon. -/
theorem TypeExpr.semicolon_not_mem {ns : List String} {h : Hand} (hr : h.reference = slot ns)
    (t : TypeExpr) : Token.mark ';' ∉ t.written h := by
  refine TypeExpr.mark_not_mem (by decide) (fun n => ?_) t
  rw [hr, slot]
  split <;> simp [placeholder, nameToken]

theorem getLast?_slot (ns : List String) (n : String) :
    ∃ w, (slot ns n).getLast? = some (.word w) := by
  unfold slot
  split <;> exact ⟨_, rfl⟩

/-- A type that is written with brackets at its end is a list, if no
reference ends in a mark. -/
theorem TypeExpr.exists_eq_array {h : Hand} (hr : ∀ n, ∃ w, (h.reference n).getLast? = some (.word w))
    {t : TypeExpr} {us : List Token} (hw : t.written h = us ++ [.mark '[', .mark ']']) :
    ∃ element, t = .array element := by
  have hlast : ∀ w, (t.written h).getLast? ≠ some (.word w) := by
    intro w hlast
    rw [hw] at hlast
    simp at hlast
  cases t with
  | array element => exact ⟨element, rfl⟩
  | named n =>
    obtain ⟨w, hword⟩ := hr n
    exact absurd hword (hlast w)
  | _ => exact absurd rfl (hlast _)

/-- **Fields are read up to relabelling**, if their types are. -/
theorem Field.read_of (hfield : h.field = slot ns) (hfield' : h'.field = slot ns') {f f' : Field}
    (hend : Token.mark ';' ∉ f.type.written h) (hend' : Token.mark ';' ∉ f'.type.written h')
    (htypes : f.type.written h = f'.type.written h' →
      f'.type = f.type.rename (counterpart ns ns'))
    {ts ts' : List Token} (hw : f.written h ++ ts = f'.written h' ++ ts') :
    f' = f.relabel (counterpart ns ns') ∧ ts = ts' := by
  rcases f with ⟨name, type, optional⟩
  rcases f' with ⟨name', type', optional'⟩
  have htype : ∀ {us us' : List Token},
      .mark ':' :: .mark ' ' :: (type.written h ++ .mark ';' :: us)
        = .mark ':' :: .mark ' ' :: (type'.written h' ++ .mark ';' :: us') →
      type' = type.rename (counterpart ns ns') ∧ us = us' := by
    intro us us' hus
    obtain ⟨ht, hrest⟩ := append_cons_inj hend hend' (List.cons.inj (List.cons.inj hus).2).2
    exact ⟨htypes ht, hrest⟩
  unfold Field.written Field.optionalMark at hw
  rw [hfield, hfield'] at hw
  simp only [List.append_assoc, List.cons_append, List.nil_append] at hw
  obtain ⟨hname, hw⟩ := slot_append_inj hw
  cases optional <;> cases optional'
  · obtain ⟨ht, hrest⟩ := htype hw
    exact ⟨by rw [Field.relabel, ← ht, ← hname], hrest⟩
  · exact absurd hw (by simp)
  · exact absurd hw (by simp)
  · obtain ⟨ht, hrest⟩ := htype (List.cons.inj hw).2
    exact ⟨by rw [Field.relabel, ← ht, ← hname], hrest⟩

/-- **Lists of fields are read one field after the other**, up to the closing
brace. -/
theorem Hand.fields_read (hfield : h.field = slot ns) (hfield' : h'.field = slot ns')
    (hindent : h'.indent = h.indent)
    (hends : ∀ ms n ts ts', h.indent ++ (slot ms n ++ ts) ≠ h.close ++ .mark '\x7d' :: ts')
    {fs fs' : List Field}
    (hread : ∀ f ∈ fs, ∀ f' ∈ fs', ∀ {ts ts'}, f.written h ++ ts = f'.written h' ++ ts' →
      f' = f.relabel (counterpart ns ns') ∧ ts = ts')
    {ts ts' : List Token} (hw : h.fields fs ++ (h.close ++ .mark '\x7d' :: ts)
      = h'.fields fs' ++ (h.close ++ .mark '\x7d' :: ts')) :
    fs' = fs.map (Field.relabel (counterpart ns ns')) ∧ ts = ts' := by
  induction fs generalizing fs' with
  | nil =>
    cases fs' with
    | nil => exact ⟨rfl, (List.cons.inj (List.append_cancel_left hw)).2⟩
    | cons f' fs' =>
      rw [Hand.fields_cons, hindent, Field.written, hfield'] at hw
      simp only [List.append_assoc, Hand.fields_nil, List.nil_append] at hw
      exact absurd hw.symm (hends _ _ _ _)
  | cons f fs ih =>
    cases fs' with
    | nil =>
      rw [Hand.fields_cons, Field.written, hfield] at hw
      simp only [List.append_assoc, Hand.fields_nil, List.nil_append] at hw
      exact absurd hw (hends _ _ _ _)
    | cons f' fs' =>
      rw [Hand.fields_cons, Hand.fields_cons, hindent] at hw
      simp only [List.append_assoc] at hw
      obtain ⟨hf, hw⟩ := hread f List.mem_cons_self f' List.mem_cons_self
        (List.append_cancel_left hw)
      obtain ⟨hrest, hts⟩ := ih (fun g hg g' hg' => hread g (List.mem_cons_of_mem _ hg) g'
        (List.mem_cons_of_mem _ hg')) hw
      exact ⟨by rw [List.map_cons, hf, hrest], hts⟩

variable (hh : Hand.Alike ns ns' h h')

include hh

/-- **Types are read up to the counterparts of their references.** -/
theorem TypeExpr.eq_rename_of_written {t t' : TypeExpr}
    (ht : ∀ n, t.reference? = some n → IsFreeName n)
    (ht' : ∀ n, t'.reference? = some n → IsFreeName n) (hw : t.written h = t'.written h') :
    t' = t.rename (counterpart ns ns') := by
  -- a list ends in a bracket, everything else in a word
  have hlist : ∀ {t : TypeExpr} {h : Hand} {ns : List String}, h.reference = slot ns →
      ∀ {us}, t.written h = us ++ [.mark '[', .mark ']'] → ∃ element, t = .array element :=
    fun {_ _ ns} hr _ hw => TypeExpr.exists_eq_array (fun n => hr ▸ getLast?_slot ns n) hw
  -- a reference is no reserved word
  have hfree : ∀ {n : String} {ns : List String} {w : String}, IsFreeName n → w ∈ reservedWords →
      ∀ {us}, slot ns n ≠ .word w.toList :: us := by
    intro n ns w hn hw us heq
    unfold slot at heq
    split at heq
    · simp [placeholder] at heq
    · simp only [nameToken, List.cons.injEq, Token.word.injEq] at heq
      exact hn.2 (String.toList_inj.mp heq.1 ▸ hw)
  induction t generalizing t' with
  | array element ih =>
    obtain ⟨element', rfl⟩ := hlist hh.reference' hw.symm
    rw [written, written] at hw
    exact congrArg TypeExpr.array (ih ht ht' (List.append_cancel_right hw))
  | named n =>
    cases t' with
    | named n' =>
      rw [written, written, hh.reference, hh.reference'] at hw
      exact congrArg TypeExpr.named (slot_inj hw)
    | array element' =>
      obtain ⟨element, he⟩ := hlist hh.reference hw
      exact absurd he (by simp)
    | _ =>
      rw [show (named n).written h = slot ns n from congrFun hh.reference n] at hw
      exact absurd hw (hfree (ht n rfl) (by decide))
  | any | boolean | number | string | queryValue =>
    cases t' with
    | named n' =>
      rw [show (named n').written h' = slot ns' n' from congrFun hh.reference' n'] at hw
      exact absurd hw.symm (hfree (ht' n' rfl) (by decide))
    | array element' =>
      obtain ⟨element, he⟩ := hlist hh.reference hw
      exact absurd he (by simp)
    | _ =>
      simp only [written] at hw
      first | rfl | exact absurd hw (by decide)

/-- **Fields are read up to relabelling.** -/
theorem Field.read {f f' : Field} (hf : ∀ n, f.type.reference? = some n → IsFreeName n)
    (hf' : ∀ n, f'.type.reference? = some n → IsFreeName n) {ts ts' : List Token}
    (hw : f.written h ++ ts = f'.written h' ++ ts') :
    f' = f.relabel (counterpart ns ns') ∧ ts = ts' :=
  Field.read_of hh.field hh.field' (TypeExpr.semicolon_not_mem hh.reference f.type)
    (TypeExpr.semicolon_not_mem hh.reference' f'.type)
    (TypeExpr.eq_rename_of_written hh hf hf') hw

/-- Interfaces are read up to relabelling, their own names apart. -/
theorem Interface.read {i i' : Interface}
    (hi : ∀ f ∈ i.fields, ∀ n, f.type.reference? = some n → IsFreeName n)
    (hi' : ∀ f ∈ i'.fields, ∀ n, f.type.reference? = some n → IsFreeName n)
    {ts ts' : List Token} (hw : i.written h ++ ts = i'.written h' ++ ts') :
    i'.fields = i.fields.map (Field.relabel (counterpart ns ns')) ∧ ts = ts' := by
  unfold Interface.written at hw
  simp only [List.append_assoc, List.cons_append, List.nil_append] at hw
  have hbody := hh.declared (List.cons.inj (List.cons.inj hw).2).2
  rw [hh.close] at hbody
  exact Hand.fields_read hh.field hh.field' hh.indent hh.ends
    (fun f hf f' hf' => Field.read hh (hi f hf) (hi' f' hf')) hbody

/-- **Auxiliary interfaces are read up to relabelling**, one after the
other. -/
theorem Hand.interfaces_read {is is' : List Interface}
    (hi : ∀ i ∈ is, ∀ f ∈ i.fields, ∀ n, f.type.reference? = some n → IsFreeName n)
    (hi' : ∀ i ∈ is', ∀ f ∈ i.fields, ∀ n, f.type.reference? = some n → IsFreeName n)
    (his : h.interfaces is = h'.interfaces is') :
    is'.length = is.length
      ∧ ((is.map Interface.name).map (counterpart ns ns') = is'.map Interface.name →
          is' = is.map (Interface.relabel (counterpart ns ns'))) := by
  induction is generalizing is' with
  | nil =>
    cases is' with
    | nil => exact ⟨rfl, fun _ => rfl⟩
    | cons i' is' => exact absurd his (by simp [Interface.written])
  | cons i is ih =>
    cases is' with
    | nil => exact absurd his (by simp [Interface.written])
    | cons i' is' =>
      rw [Hand.interfaces_cons, Hand.interfaces_cons, hh.between] at his
      simp only [List.append_assoc] at his
      obtain ⟨hfields, his⟩ := Interface.read hh (hi i List.mem_cons_self)
        (hi' i' List.mem_cons_self) (List.append_cancel_left his)
      obtain ⟨hlen, hrest⟩ := ih (fun j hj => hi j (List.mem_cons_of_mem _ hj))
        (fun j hj => hi' j (List.mem_cons_of_mem _ hj)) his
      refine ⟨by rw [List.length_cons, List.length_cons, hlen], fun hnames => ?_⟩
      simp only [List.map_cons, List.cons.injEq] at hnames
      rw [List.map_cons, ← Interface.eq_relabel hnames.1 hfields, ← hrest hnames.2]

/-- **Definitions are read up to relabelling**: as many names are
declared, and if the declared names are counterparts then so are all
others. -/
theorem Definition.read {d d' : Definition} (hd : ∀ n ∈ d.references, IsFreeName n)
    (hd' : ∀ n ∈ d'.references, IsFreeName n) (hw : d.written h = d'.written h') :
    d'.names.length = d.names.length
      ∧ (d.names.map (counterpart ns ns') = d'.names → d' = d.relabel (counterpart ns ns')) := by
  have href : ∀ {d : Definition}, (∀ n ∈ d.references, IsFreeName n) → ∀ i ∈ d.all,
      ∀ f ∈ i.fields, ∀ n, f.type.reference? = some n → IsFreeName n :=
    fun hd i hi f hf n hn => hd n (mem_references.mpr ⟨f, List.mem_flatMap.mpr ⟨i, hi, hf⟩, hn⟩)
  cases d with
  | interfaces root auxiliary =>
    cases d' with
    | interfaces root' auxiliary' =>
      rw [Definition.written, Definition.written] at hw
      obtain ⟨hfields, hw⟩ := Interface.read hh (href hd root List.mem_cons_self)
        (href hd' root' List.mem_cons_self) hw
      obtain ⟨hlen, hrest⟩ := Hand.interfaces_read hh
        (fun i hi => href hd i (List.mem_cons_of_mem _ hi))
        (fun i hi => href hd' i (List.mem_cons_of_mem _ hi)) hw
      refine ⟨by simpa [Definition.names] using hlen, fun hnames => ?_⟩
      simp only [Definition.names, List.map_cons, List.cons.injEq] at hnames
      rw [Definition.relabel, ← Interface.eq_relabel hnames.1 hfields, ← hrest hnames.2]
    | «alias» name' target' => exact absurd (List.cons.inj hw).1 (by decide)
  | «alias» name target =>
    cases d' with
    | interfaces root' auxiliary' => exact absurd (List.cons.inj hw).1 (by decide)
    | «alias» name' target' =>
      refine ⟨rfl, fun hnames => ?_⟩
      rw [Definition.written, Definition.written] at hw
      simp only [List.append_assoc, List.cons_append] at hw
      have htarget := hh.declared (List.cons.inj (List.cons.inj hw).2).2
      have htarget : target' = target := by
        cases target <;> cases target' <;> first | rfl | exact absurd htarget (by decide)
      simp only [Definition.names, List.map_cons, List.map_nil, List.cons.injEq, and_true] at hnames
      rw [Definition.relabel, hnames, htarget]

end Alike

/-! ## Definitions of one text -/

/-- **Two legible definitions of one text are equal.** -/
theorem Definition.eq_of_text_eq {d d' : Definition} (hd : d.Legible) (hd' : d'.Legible)
    (h : d.text = d'.text) : d = d' := by
  have htext : ∀ d : Definition, (d.rename (led [])).text = d.text := by
    intro d
    rw [led_nil, Definition.rename_id]
  have htokens : ∀ {d : Definition}, d.Legible →
      tokens d.text.toList = d.written (.plain []) := by
    intro d hd
    rw [← htext, ← Definition.charsOf_written]
    exact tokens_charsOf (Definition.proper_written (Hand.plain_proper isBlankLead_nil.proper) hd.clear)
  have hnames : d.names = d'.names := by
    rw [← Definition.headers_text isBlankLead_nil hd, ← Definition.headers_text isBlankLead_nil hd',
      htext, htext, h]
  have hid : counterpart [] [] = id := by
    funext n
    exact if_neg List.not_mem_nil
  obtain ⟨-, hread⟩ := Definition.read Hand.plain_alike hd.references hd'.references
    ((htokens hd).symm.trans ((congrArg (fun s => tokens s.toList) h).trans (htokens hd')))
  rw [hid, List.map_id] at hread
  have hself : d.relabel id = d.rename id := Definition.relabel_eq_rename fun _ _ => rfl
  rw [hread hnames, hself, Definition.rename_id]

/-! ## Definitions of one canonical text -/

section Canonical

variable {lead : List Token} (hl : IsBlankLead lead) {d d' : Definition} (hd : d.Legible)
  (hd' : d'.Legible)
  (h : canonical (d.rename (led lead)).text = canonical (d'.rename (led lead)).text)

include hl hd hd' h

/-- **Two definitions of one canonical text are relabelled into each
other.** -/
theorem Definition.eq_relabel_of_canonical_eq :
    d.names.map (counterpart d.names d'.names) = d'.names
      ∧ d' = d.relabel (counterpart d.names d'.names) := by
  have hw : d.written (.erased d.names) = d'.written (.erased d'.names) := by
    rw [← Definition.tokens_canonical hl hd.clear, h, Definition.tokens_canonical hl hd'.clear]
  obtain ⟨hlen, hread⟩ :=
    Definition.read (Hand.erased_alike d.names d'.names) hd.references hd'.references hw
  have hnames := map_counterpart hd.nodup hlen
  exact ⟨hnames, hread hnames⟩

/-- **Two definitions of one canonical text have one shape** exactly when
no declared name that differs is the name of a field. -/
theorem Definition.sameShape_iff_of_canonical_eq :
    d.SameShape d'
      ↔ ∀ p ∈ d.names.zip d'.names, p.1 ∈ d.fieldNames → p.1 = p.2 := by
  obtain ⟨hnames, hrelabel⟩ := Definition.eq_relabel_of_canonical_eq hl hd hd' h
  set ρ := counterpart d.names d'.names with hρ
  have hzip : ∀ p, p ∈ d.names.zip d'.names ↔ ∃ n ∈ d.names, p = (n, ρ n) := by
    intro p
    rw [← hnames, ← List.map_prod_left_eq_zip, List.mem_map]
    exact exists_congr fun n => and_congr_right fun _ => eq_comm
  constructor
  · rintro ⟨σ, -, hσ⟩ p hp hfield
    obtain ⟨n, -, rfl⟩ := (hzip p).mp hp
    -- the renaming leaves the names of fields alone, so the relabelling does
    have hfields : d.fieldNames.map ρ = d.fieldNames := by
      rw [← Definition.fieldNames_relabel, ← hrelabel, ← hσ, Definition.fieldNames_rename]
    have hfix : d.fieldNames.map ρ = d.fieldNames.map id := by rw [hfields, List.map_id]
    exact (List.map_inj_left.mp hfix n hfield).symm
  · intro hfix
    have hfields : ∀ f ∈ d.fieldNames, ρ f = f := by
      intro f hf
      by_cases hmem : f ∈ d.names
      · exact (hfix (f, ρ f) ((hzip _).mpr ⟨f, hmem, rfl⟩) hf).symm
      · exact if_neg hmem
    refine ⟨ρ, fun m hm n hn hmn => ?_, ?_⟩
    · have hnodup : (d.names.map ρ).Nodup := hnames ▸ hd'.nodup
      exact List.inj_on_of_nodup_map hnodup hm hn hmn
    · rw [← Definition.relabel_eq_rename hfields, ← hrelabel]

end Canonical

/-- Something in front of all type names does not change which
definitions have one shape. -/
theorem Definition.sameShape_rename_iff {ρ : String → String} (hρ : Function.Injective ρ)
    {d d' : Definition} : (d.rename ρ).SameShape (d'.rename ρ) ↔ d.SameShape d' := by
  obtain ⟨τ, hτ⟩ := hρ.hasLeftInverse
  have hback : ∀ d : Definition, (d.rename ρ).rename τ = d := by
    intro d
    rw [Definition.rename_rename, hτ.comp_eq_id, Definition.rename_id]
  constructor
  · rintro ⟨σ, hinj, hσ⟩
    have hnames : ∀ n ∈ d.names, ∃ m, σ (ρ n) = ρ m := by
      intro n hn
      have hmem : σ (ρ n) ∈ (d'.rename ρ).names := by
        rw [← hσ, Definition.names_rename, Definition.names_rename]
        exact List.mem_map_of_mem (List.mem_map_of_mem hn)
      rw [Definition.names_rename] at hmem
      obtain ⟨m, -, hm⟩ := List.mem_map.mp hmem
      exact ⟨m, hm.symm⟩
    refine ⟨τ ∘ σ ∘ ρ, fun m hm n hn hmn => ?_, ?_⟩
    · obtain ⟨a, ha⟩ := hnames m hm
      obtain ⟨b, hb⟩ := hnames n hn
      simp only [Function.comp_apply, ha, hb, hτ a, hτ b] at hmn
      refine hρ (hinj ?_ ?_ ?_)
      · rw [Set.mem_ofPred_eq, Definition.names_rename]
        exact List.mem_map_of_mem hm
      · rw [Set.mem_ofPred_eq, Definition.names_rename]
        exact List.mem_map_of_mem hn
      · rw [ha, hb, hmn]
    · rw [← Function.comp_assoc, ← Definition.rename_rename, ← Definition.rename_rename, hσ,
        hback]
  · rintro ⟨σ, hinj, hσ⟩
    refine ⟨ρ ∘ σ ∘ τ, fun m hm n hn hmn => ?_, ?_⟩
    · rw [Set.mem_ofPred_eq, Definition.names_rename] at hm hn
      obtain ⟨a, ha, rfl⟩ := List.mem_map.mp hm
      obtain ⟨b, hb, rfl⟩ := List.mem_map.mp hn
      simp only [Function.comp_apply, hτ a, hτ b] at hmn
      rw [hinj ha hb (hρ hmn)]
    · rw [← Definition.rename_rename, ← Definition.rename_rename, hback, hσ]

end TypedTraffic
