import TypedTraffic.Proofs.Declaration.Relabelled

/-!
# Definitions with a word in front of their names

When a word and a line end stand in front of every type name, the word is
taken for the declared name. It becomes a placeholder and is erased, and
the name behind it stays in the canonical text, since nothing refers to
the root of a definition (`canonical_fronted`). So two such definitions
of one canonical text have one name (`name_eq_of_canonical_eq`).
-/

namespace TypedTraffic

open Naming Text Canonical

/-- **A word in front of the type names**, with a gap behind it. -/
def wordLead (q : String) (gap : Char) : List Token := [nameToken q, .mark gap]

theorem IsClearName.not_isKeyword {n : String} (h : IsClearName n) : isKeyword n.toList = false := by
  rw [← Bool.not_eq_true]
  intro hk
  rw [isKeyword, Bool.or_eq_true, beq_iff_eq, beq_iff_eq, String.toList_inj,
    String.toList_inj] at hk
  rcases hk with rfl | rfl
  · exact h.2 (by decide)
  · exact h.2 (by decide)

theorem collapsesTo_wordLead (q : String) :
    CollapsesTo (wordLead q '\n') (wordLead q ' ') := fun _ _ => rfl

section Fronted

variable {q : String}

theorem proper_wordLead (hq : IsWordName q) {gap : Char} (hgap : isWord gap = false)
    {n : String} {ts : List Token} (hn : IsWordName n) (ha : Apart ts)
    (h : Canonical.Proper ts) : Canonical.Proper (wordLead q gap ++ nameToken n :: ts) := by
  have hname : Canonical.Proper (.mark gap :: nameToken n :: ts) :=
    ⟨hgap, proper_nameToken hn ha h⟩
  have happart : Apart (.mark gap :: nameToken n :: ts) := trivial
  exact proper_nameToken hq happart hname

/-- What is found behind a keyword is the word in front of the names; in
a reference something is found only if that word is itself a keyword. -/
theorem Hand.tight_shows_wordLead (q : String) :
    (Hand.tight (wordLead q ' ')).Shows (fun _ => [q.toList])
      (fun n => if isKeyword q.toList then [n.toList] else []) where
  indent := declarations_marks [' ']
  close := declarations_marks [' ']
  between := declarations_marks [' ']
  declared {n} ts hn := by
    have hrest : declarations none (.mark ' ' :: nameToken n :: .mark ' ' :: ts)
        = declarations none ts := by
      rw [nameToken, declarations_mark, Option.map_none, ite_self,
        declarations_word_of_not_isKeyword hn.not_isKeyword]
      exact declarations_marks [' '] ts
    exact congrArg (q.toList :: ·) hrest
  reference {n c} ts hn hc := by
    have hlead : (Hand.tight (wordLead q ' ')).reference n ++ .mark c :: ts
        = .word q.toList :: .mark ' ' :: .word n.toList :: .mark c :: ts := rfl
    rw [hlead, declarations_word, declarations_mark]
    by_cases hk : isKeyword q.toList = true
    · rw [if_pos hk, if_pos hk]
      refine congrArg (n.toList :: ·) ?_
      rw [declarations_mark, hc]
      rfl
    · rw [if_neg hk, if_neg hk, Option.map_none, ite_self, declarations_word_mark _ hc]
      rfl
  field _ _ ts hc := declarations_word_mark _ hc ts

/-- What is found in a definition: first the word in front of its names,
and besides that word only references. -/
theorem Definition.distinct_shown (q : String) (d : Definition) :
    ∃ others, Ordered.distinct (d.shown (fun _ => [q.toList])
        (fun n => if isKeyword q.toList then [n.toList] else [])) = q.toList :: others
      ∧ ∀ w ∈ others, w ≠ q.toList ∧ ∃ r ∈ d.references, w = r.toList := by
  set referredAs : String → List (List Char) :=
    fun n => if isKeyword q.toList then [n.toList] else []
  have hshown : ∃ rest, d.shown (fun _ => [q.toList]) referredAs = q.toList :: rest := by
    cases d with
    | interfaces root auxiliary => exact ⟨_, rfl⟩
    | «alias» name target => exact ⟨_, rfl⟩
  have hmem : ∀ w ∈ d.shown (fun _ => [q.toList]) referredAs,
      w = q.toList ∨ ∃ r ∈ d.references, w = r.toList := by
    intro w hw
    cases d with
    | interfaces root auxiliary =>
      obtain ⟨i, hi, hw⟩ := List.mem_flatMap.mp hw
      rcases List.mem_append.mp hw with hw | hw
      · exact Or.inl (List.mem_singleton.mp hw)
      · obtain ⟨f, hf, hw⟩ := List.mem_flatMap.mp hw
        obtain ⟨r, hr, hw⟩ := List.mem_flatMap.mp hw
        have href : r ∈ (Definition.interfaces root auxiliary).references :=
          mem_references.mpr ⟨f, List.mem_flatMap.mpr ⟨i, hi, hf⟩, Option.mem_toList.mp hr⟩
        simp only [referredAs] at hw
        split at hw
        · exact Or.inr ⟨r, href, List.mem_singleton.mp hw⟩
        · exact absurd hw List.not_mem_nil
    | «alias» name target => exact Or.inl (List.mem_singleton.mp hw)
  obtain ⟨rest, hrest⟩ := hshown
  refine ⟨_, by rw [hrest, Ordered.distinct], fun w hw => ?_⟩
  obtain ⟨hw, hne⟩ := List.mem_filter.mp hw
  have hne : w ≠ q.toList := by simpa using hne
  refine ⟨hne, (hmem w ?_).resolve_left hne⟩
  rw [hrest]
  exact List.mem_cons_of_mem _ (Ordered.mem_distinct.mp hw)

/-- The keyword of a definition, as it is left in the canonical text. -/
def keywordShown (q k : String) : List Char :=
  if k = q then "#0 #0 ".toList else k.toList ++ [' ']

/-- What follows a keyword is told from the text. -/
theorem keywordShown_append_inj {q k k' : String} (hk : k = "interface" ∨ k = "type")
    (hk' : k' = "interface" ∨ k' = "type") {xs ys : List Char}
    (h : keywordShown q k ++ xs = keywordShown q k' ++ ys) : xs = ys := by
  have hcases : k = k' ∨ (k = "interface" ∧ k' = "type") ∨ (k = "type" ∧ k' = "interface") := by
    rcases hk with rfl | rfl <;> rcases hk' with rfl | rfl <;> simp
  rcases hcases with rfl | ⟨rfl, rfl⟩ | ⟨rfl, rfl⟩
  · exact List.append_cancel_left h
  · unfold keywordShown at h
    split at h <;> split at h <;> simp_all
  · unfold keywordShown at h
    split at h <;> split at h <;> simp_all

theorem slot_singleton_self (q : String) : slot [q] q = placeholder 0 := by
  simp [slot]

theorem slot_singleton_of_ne {q n : String} (h : n ≠ q) : slot [q] n = [nameToken n] :=
  if_neg fun hn => h (List.mem_singleton.mp hn)

/-- No slot has a space in it. -/
theorem space_not_mem_slot (q : String) {n : String} (hn : IsClearName n) :
    ' ' ∉ charsOf (slot [q] n) := by
  intro hmem
  by_cases hnq : n = q
  · rw [hnq, slot_singleton_self] at hmem
    exact absurd hmem (by decide)
  · rw [slot_singleton_of_ne hnq, charsOf_cons, charsOf_nil, List.append_nil] at hmem
    exact absurd (hn.1.word _ hmem) (by decide)

/-- A slot is read back from its characters. -/
theorem tokens_slot (q : String) {n : String} (hn : IsClearName n) :
    tokens (charsOf (slot [q] n)) = slot [q] n := by
  have hproper : Canonical.Proper (slot [q] n ++ []) := proper_slot hn.1 trivial trivial
  rw [List.append_nil] at hproper
  exact tokens_charsOf hproper

/-- Erasing what is declared at the front of a definition. -/
theorem eraseDeclared_fronted {k n : String} (hk : isKeyword k.toList = true)
    (hn : IsClearName n) {c : Char} (hc : c ≠ '#') (us : List Token) :
    eraseDeclared (slot [q] k ++ .mark ' ' :: (placeholder 0 ++ .mark ' ' ::
        (slot [q] n ++ .mark ' ' :: .mark c :: us)))
      = keywordShown q k ++ (charsOf (slot [q] n) ++ ' ' :: c :: eraseDeclared us) := by
  have hname : eraseDeclared (slot [q] n ++ .mark ' ' :: .mark c :: us)
      = charsOf (slot [q] n) ++ ' ' :: c :: eraseDeclared us := by
    rw [eraseDeclared_slot (plain_space hc us), eraseDeclared_mark, eraseDeclared_mark]
  by_cases hkq : k = q
  · -- the keyword is a placeholder itself, so nothing is erased
    subst hkq
    have hnk : n ≠ k := by
      rintro rfl
      exact absurd hk (by rw [hn.not_isKeyword]; decide)
    rw [slot_singleton_of_ne hnk] at hname ⊢
    have hzero : placeholder 0 = [.mark '#', .word ['0']] := rfl
    rw [slot_singleton_self, keywordShown, if_pos rfl, hzero]
    simp only [List.cons_append, List.nil_append] at hname ⊢
    rw [eraseDeclared_mark, eraseDeclared, show isKeyword ['0'] = false from rfl]
    show '#' :: (['0'] ++ _) = _
    rw [eraseDeclared_mark, eraseDeclared_mark, eraseDeclared_word (by trivial),
      eraseDeclared_mark, hname]
    rfl
  · have h := eraseDeclared_placeholder hk 0 (slot [q] n ++ .mark ' ' :: .mark c :: us)
    rw [hname] at h
    rw [slot_singleton_of_ne hkq, keywordShown, if_neg hkq, List.append_assoc]
    exact h

/-- The first tokens of a definition with a word in front of its names. -/
theorem Definition.written_fronted (q : String) (d : Definition) :
    ∃ k c us, d.written (.tight (wordLead q ' '))
        = nameToken k :: .mark ' ' :: nameToken q :: .mark ' ' :: nameToken d.name :: .mark ' '
          :: .mark c :: us
      ∧ (k = "interface" ∨ k = "type") ∧ c ≠ '#' := by
  cases d with
  | interfaces root auxiliary => exact ⟨_, _, _, rfl, Or.inl rfl, by decide⟩
  | «alias» name target => exact ⟨_, _, _, rfl, Or.inr rfl, by decide⟩

variable (hq : IsWordName q)

include hq

/-- **The canonical text of a definition with a word in front of its
names** begins with the keyword and the name. -/
theorem Definition.canonical_fronted {d : Definition} (hd : d.Clear) (hclosed : d.Closed) :
    ∃ k rest, (k = "interface" ∨ k = "type")
      ∧ (canonical (d.rename (led (wordLead q '\n'))).text).toList
          = keywordShown q k ++ (charsOf (slot [q] d.name) ++ ' ' :: rest) := by
  have htokens := Definition.tokens_collapsed (collapsesTo_wordLead q)
    (Hand.plain_proper (proper_wordLead hq (by decide)))
    (Hand.tight_proper (proper_wordLead hq (by decide))) hd
  obtain ⟨others, hothers, hmem⟩ := Definition.distinct_shown q d
  obtain ⟨k, c, us, hfront, hk, hc⟩ := Definition.written_fronted q d
  have hkey : isKeyword k.toList = true := by
    rcases hk with rfl | rfl <;> decide
  set names := q.toList :: others
  have hnumeral : ∀ w ∈ names, ∀ i, w ≠ Nat.toDigits 10 i := by
    intro w hw i
    rcases List.mem_cons.mp hw with rfl | hw
    · exact toList_ne_toDigits hq i
    · obtain ⟨-, r, hr, rfl⟩ := hmem w hw
      exact toList_ne_toDigits (hd.references r hr).1 i
  -- of the names at the front only the word itself is replaced
  have hindexed : ∀ n : String, n.toList ∉ others → indexed names 0 (nameToken n) = slot [q] n := by
    intro n hn
    by_cases hnq : n = q
    · subst hnq
      rw [slot_singleton_self]
      simp [indexed, nameToken, names]
    · have hne : n.toList ≠ q.toList := fun h => hnq (String.toList_inj.mp h)
      rw [slot_singleton_of_ne hnq, nameToken, indexed, if_neg]
      exact fun h => (List.mem_cons.mp h).elim hne hn
  have hkother : k.toList ∉ others := by
    intro hmem'
    obtain ⟨-, r, hr, hkr⟩ := hmem _ hmem'
    rw [hkr, (hd.references r hr).not_isKeyword] at hkey
    exact absurd hkey (by decide)
  have hqother : q.toList ∉ others := fun hmem' => (hmem _ hmem').1 rfl
  have hnother : d.name.toList ∉ others := by
    intro hmem'
    obtain ⟨-, r, hr, hnr⟩ := hmem _ hmem'
    have hroot := hclosed r hr
    rw [← String.toList_inj.mp hnr] at hroot
    have hnodup := hd.nodup
    rw [Definition.names_eq_cons] at hnodup
    exact (List.nodup_cons.mp hnodup).1 hroot
  refine ⟨k, c :: eraseDeclared (us.flatMap (indexed names 0)), hk, ?_⟩
  have hname : IsClearName d.name :=
    hd.names _ (by rw [Definition.names_eq_cons]; exact List.mem_cons_self)
  rw [canonical, htokens, Definition.declarations_written (Hand.tight_shows_wordLead q) hd, hothers,
    replaceNames_eq 0 hnumeral, String.toList_ofList, hfront]
  simp only [List.flatMap_cons, hindexed k hkother, hindexed q hqother, hindexed _ hnother,
    slot_singleton_self]
  exact eraseDeclared_fronted hkey hname hc _

/-- **Definitions of one canonical text have one name**, when a word
stands in front of their names. -/
theorem Definition.name_eq_of_canonical_eq {d d' : Definition} (hd : d.Clear)
    (hclosed : d.Closed) (hd' : d'.Clear) (hclosed' : d'.Closed)
    (h : canonical (d.rename (led (wordLead q '\n'))).text
      = canonical (d'.rename (led (wordLead q '\n'))).text) : d.name = d'.name := by
  obtain ⟨k, rest, hk, htext⟩ := Definition.canonical_fronted hq hd hclosed
  obtain ⟨k', rest', hk', htext'⟩ := Definition.canonical_fronted hq hd' hclosed'
  have hslots := keywordShown_append_inj hk hk'
    (htext.symm.trans ((congrArg String.toList h).trans htext'))
  have hname : ∀ {d : Definition}, d.Clear → IsClearName d.name := fun hd =>
    hd.names _ (by rw [Definition.names_eq_cons]; exact List.mem_cons_self)
  obtain ⟨hchars, -⟩ := append_cons_inj (space_not_mem_slot q (hname hd))
    (space_not_mem_slot q (hname hd')) hslots
  have hslot : slot [q] d.name = slot [q] d'.name := by
    rw [← tokens_slot q (hname hd), hchars, tokens_slot q (hname hd')]
  rw [slot_inj hslot, counterpart_self]

end Fronted

/-! ## Prefixes -/

/-- What is in front of type names, as `lead` has it in front of others. -/
def PutsInFront (p : String) (lead : List Token) : Prop :=
  ∀ n, IsTypeName n → ∃ core, IsTypeName core ∧ p ++ n = led lead core

/-- A prefix that is all lead leaves the name behind it as it is. -/
theorem putsInFront_of_toList_eq {p : String} {lead : List Token}
    (h : p.toList = charsOf lead) : PutsInFront p lead :=
  fun n hn => ⟨n, hn, by rw [led, ← h, String.ofList_toList]⟩

/-- A prefix that is empty, an identifier or a line end puts at most blanks in
front of type names. -/
theorem exists_blankLead_of_prefix {p : String}
    (h : Options.isNamePrefix p.toList = true ∨ p = "\n") :
    ∃ lead, IsBlankLead lead ∧ PutsInFront p lead := by
  rcases h with h | rfl
  · exact ⟨[], isBlankLead_nil, fun n hn =>
      ⟨p ++ n, isTypeName_prefix_append h hn, by rw [led_nil, id_eq]⟩⟩
  · exact ⟨[.mark '\n'], isBlankLead_newline, putsInFront_of_toList_eq rfl⟩

/-- **What an accepted prefix puts in front of type names**: at most blanks,
or a word and a line end. -/
theorem exists_lead_of_prefix {p : String} (h : Options.acceptsPrefix p = true) :
    ∃ lead, (IsBlankLead lead
        ∨ ∃ q, isIdentifier q = true ∧ lead = wordLead q '\n' ∧ p = q ++ "\n")
      ∧ PutsInFront p lead := by
  have hwhole : Options.isNamePrefix p.toList = true ∨ p = "\n" → _ := exists_blankLead_of_prefix
  rw [Options.acceptsPrefix, Bool.or_eq_true, Bool.and_eq_true, beq_iff_eq] at h
  rcases h with h | ⟨hlast, h⟩
  · obtain ⟨lead, hlead, hfront⟩ := hwhole (Or.inl h)
    exact ⟨lead, Or.inl hlead, hfront⟩
  · have hchars : p.toList = p.toList.dropLast ++ ['\n'] :=
      (List.dropLast_append_getLast? _ hlast).symm
    cases hword : p.toList.dropLast with
    | nil =>
      rw [hword] at hchars
      obtain ⟨lead, hlead, hfront⟩ := hwhole (Or.inr (String.toList_inj.mp hchars))
      exact ⟨lead, Or.inl hlead, hfront⟩
    | cons c cs =>
      rw [hword] at hchars h
      have hq : isIdentifier (String.ofList (c :: cs)) = true :=
        isIdentifier_of_isNamePrefix (by rwa [String.toList_ofList]) (by simp)
      refine ⟨wordLead (String.ofList (c :: cs)) '\n', Or.inr ⟨_, hq, rfl, ?_⟩,
        putsInFront_of_toList_eq ?_⟩
      · exact String.toList_inj.mp (by rw [hchars, String.toList_append, String.toList_ofList]; rfl)
      · rw [hchars]
        simp [wordLead, nameToken, Token.chars]

end TypedTraffic
