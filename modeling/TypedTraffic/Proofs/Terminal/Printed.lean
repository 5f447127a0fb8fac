import TypedTraffic.Terminal.Markup

/-!
# What is printed of a text

Text that is escaped is seen as it is: escaping puts a backslash in front of
every bracket that would begin a style, and no bracket begins one that did
not before (`isStyle_escape`). So a character beyond ASCII is printed of a
line exactly if it is in its text (`mem_printed_iff`,
`mem_visible_escape_iff`).

What is seen first is printed first, if it is plain (`exists_printed_eq`).
-/

namespace TypedTraffic.Terminal

/-! ## The beginning of a line -/

/-- A character that is printed as it is, wherever it stands. -/
def isPlain (c : Char) : Bool := !isCursorMove c && c != '\n' && c != '\t'

theorem exists_split_append {pre : List Char} (hpre : ∀ c ∈ pre, isPlain c = true)
    (cs : List Char) :
    ∃ line lines, Text.split '\n' (pre ++ cs) = (pre ++ line) :: lines := by
  induction pre with
  | nil => exact List.exists_cons_of_ne_nil (Text.split_ne_nil '\n' cs)
  | cons c pre ih =>
    obtain ⟨line, lines, hsplit⟩ := ih fun d hd => hpre d (List.mem_cons_of_mem _ hd)
    have hc := hpre c List.mem_cons_self
    refine ⟨line, lines, ?_⟩
    rw [Text.split] at hsplit
    rw [List.cons_append, Text.split, Text.splitWhere, hsplit, if_neg]
    · rfl
    · intro heq
      simp [isPlain, eq_of_beq heq] at hc

theorem exists_expandTabs_append {pre : List Char} (hpre : ∀ c ∈ pre, isPlain c = true)
    (cell : Nat) (cs : List Char) : ∃ rest, expandTabs cell (pre ++ cs) = pre ++ rest := by
  induction pre generalizing cell with
  | nil => exact ⟨_, rfl⟩
  | cons c pre ih =>
    have hc := hpre c List.mem_cons_self
    obtain ⟨rest, hrest⟩ := ih (fun d hd => hpre d (List.mem_cons_of_mem _ hd)) (cell + cells c)
    refine ⟨rest, ?_⟩
    rw [List.cons_append, expandTabs, if_neg, hrest]
    · rfl
    · intro heq
      simp [isPlain, eq_of_beq heq] at hc

theorem exists_join_append (sep pre line : List Char) (lines : List (List Char)) :
    ∃ rest, Text.join sep ((pre ++ line) :: lines) = pre ++ rest := by
  cases lines with
  | nil => exact ⟨line, rfl⟩
  | cons l ls =>
    refine ⟨line ++ (sep ++ Text.join sep (l :: ls)), ?_⟩
    rw [Text.join, List.append_assoc, List.append_assoc]
    exact List.cons_ne_nil l ls

/-- **What is seen first is printed first**, if it is plain. -/
theorem exists_printed_eq {pre cs seen : List Char} (hpre : ∀ c ∈ pre, isPlain c = true)
    (hseen : visible cs = pre ++ seen) :
    ∃ rest, printed cs = String.ofList pre ++ rest := by
  have hkept : pre.filter (fun c => !isCursorMove c) = pre := by
    refine List.filter_eq_self.mpr fun c hc => ?_
    have hplain := hpre c hc
    rw [isPlain, Bool.and_eq_true, Bool.and_eq_true] at hplain
    exact hplain.1.1
  obtain ⟨line, lines, hsplit⟩ :=
    exists_split_append hpre (seen.filter fun c => !isCursorMove c)
  obtain ⟨rest, hrest⟩ := exists_expandTabs_append hpre 0 line
  obtain ⟨tail, htail⟩ := exists_join_append ['\n'] pre rest (lines.map (expandTabs 0))
  refine ⟨String.ofList (tail ++ ['\n']), ?_⟩
  rw [printed, printedLines, hseen, List.filter_append, hkept, hsplit, List.map_cons, hrest, htail,
    List.append_assoc, String.ofList_append]

/-! ## What is escaped -/

/-- Backslashes decide nothing about brackets. -/
theorem closes_backslashes_append (n : Nat) (cs : List Char) :
    closes (backslashes n ++ cs) = closes cs := by
  induction n with
  | zero => rfl
  | succ n ih => exact ih

/-- **Escaping leaves the brackets in order.** -/
theorem closes_escapeFrom (n : Nat) (cs rest : List Char) :
    closes (escapeFrom n cs ++ '[' :: rest) = closes cs := by
  induction cs generalizing n with
  | nil => exact closes_backslashes_append _ _
  | cons c cs ih =>
    rw [escapeFrom]
    split
    · rename_i hc
      rw [ih, eq_of_beq hc]
      rfl
    · split
      · rename_i hc
        rw [Bool.and_eq_true] at hc
        rw [List.append_assoc, closes_backslashes_append, eq_of_beq hc.1]
        rfl
      · rw [List.append_assoc, closes_backslashes_append, List.cons_append, closes, closes, ih]

/-- Behind backslashes the escaped form begins with one. -/
theorem exists_escapeFrom_succ (n : Nat) (cs : List Char) :
    ∃ rest, escapeFrom (n + 1) cs = '\\' :: rest := by
  induction cs generalizing n with
  | nil =>
    rw [escapeFrom]
    split
    · exact ⟨_, rfl⟩
    · exact ⟨_, rfl⟩
  | cons c cs ih =>
    rw [escapeFrom]
    split
    · exact ih (n + 1)
    · split
      · exact ⟨_, rfl⟩
      · exact ⟨_, rfl⟩

/-- **No bracket begins a style that did not before** the text behind it was
escaped. -/
theorem isStyle_escape {cs : List Char} (h : isStyle cs = false) (rest : List Char) :
    isStyle (escape cs ++ '[' :: rest) = false := by
  cases cs with
  | nil => rfl
  | cons c cs =>
    rw [escape, escapeFrom]
    split
    · obtain ⟨tail, htail⟩ := exists_escapeFrom_succ 0 cs
      rw [htail]
      rfl
    · split
      · rfl
      · rw [isStyle] at h
        rw [List.append_assoc, List.cons_append]
        exact (congrArg (startsStyle c && ·) (closes_escapeFrom 0 cs rest)).trans h

theorem visibleFrom_backslashes_append (m n : Nat) (cs : List Char) :
    visibleFrom false m (backslashes n ++ cs) = visibleFrom false (m + n) cs := by
  induction n generalizing m with
  | zero => rfl
  | succ n ih =>
    have hstep : visibleFrom false m (backslashes (n + 1) ++ cs)
        = visibleFrom false (m + 1) (backslashes n ++ cs) := rfl
    rw [hstep, ih, Nat.add_right_comm, Nat.add_assoc]

/-- **What is escaped is seen**, in front of a bracket. -/
theorem mem_visibleFrom_escapeFrom {c : Char} (hc : c ≠ '\\') {cs : List Char} (h : c ∈ cs)
    (n : Nat) (rest : List Char) : c ∈ visibleFrom false 0 (escapeFrom n cs ++ '[' :: rest) := by
  induction cs generalizing n with
  | nil => exact absurd h List.not_mem_nil
  | cons d cs ih =>
    rw [escapeFrom]
    split
    · rename_i hd
      refine ih ((List.mem_cons.mp h).resolve_left ?_) (n + 1)
      rw [eq_of_beq hd]
      exact hc
    · rename_i hd
      have hbehind : c ∈ d :: visibleFrom false 0 (escape cs ++ '[' :: rest) := by
        rcases List.mem_cons.mp h with rfl | h
        · exact List.mem_cons_self
        · exact List.mem_cons_of_mem _ (ih h 0)
      split
      · -- an odd number of backslashes makes the bracket an ordinary character
        rename_i hstyle
        rw [Bool.and_eq_true] at hstyle
        obtain rfl := eq_of_beq hstyle.1
        have hodd : ((0 + (2 * n + 1)) % 2 == 0) = false := by simp
        rw [List.append_assoc, visibleFrom_backslashes_append, List.cons_append, visibleFrom,
          if_neg (by decide), if_pos (by decide), hodd]
        split
        · exact List.mem_append_right _ hbehind
        · exact List.mem_append_right _ hbehind
      · rename_i hplain
        rw [List.append_assoc, visibleFrom_backslashes_append, List.cons_append, visibleFrom,
          if_neg hd]
        split
        · rename_i hbracket
          rw [hbracket, Bool.true_and, Bool.not_eq_true] at hplain
          obtain rfl := eq_of_beq hbracket
          rw [← escape, isStyle_escape hplain, if_neg Bool.false_ne_true]
          exact List.mem_append_right _ hbehind
        · exact List.mem_append_right _ hbehind

/-- What is seen is in the text, but for backslashes. -/
theorem mem_of_mem_visibleFrom {c : Char} (hc : c ≠ '\\') {styled : Bool} {n : Nat}
    {cs : List Char} (h : c ∈ visibleFrom styled n cs) : c ∈ cs := by
  have hnot : ∀ k, c ∉ backslashes k := fun k hk => hc (List.eq_of_mem_replicate hk)
  induction cs generalizing styled n with
  | nil =>
    cases styled <;> exact absurd h (hnot n)
  | cons d cs ih =>
    have hstep : ∀ {k styled' n'}, c ∈ backslashes k ++ d :: visibleFrom styled' n' cs →
        c ∈ d :: cs := by
      intro k styled' n' hmem
      rcases List.mem_cons.mp ((List.mem_append.mp hmem).resolve_left (hnot k)) with rfl | hmem
      · exact List.mem_cons_self
      · exact List.mem_cons_of_mem _ (ih hmem)
    cases styled with
    | true => exact List.mem_cons_of_mem _ (ih h)
    | false =>
      rw [visibleFrom] at h
      split at h
      · exact List.mem_cons_of_mem _ (ih h)
      · split at h
        · rename_i hbracket
          rw [← eq_of_beq hbracket] at h
          split at h
          · split at h
            · exact List.mem_cons_of_mem _
                (ih ((List.mem_append.mp h).resolve_left (hnot _)))
            · exact hstep h
          · exact hstep h
        · exact hstep h

/-- What is in the escaped form is in the text, but for backslashes. -/
theorem mem_of_mem_escapeFrom {c : Char} (hc : c ≠ '\\') {n : Nat} {cs : List Char}
    (h : c ∈ escapeFrom n cs) : c ∈ cs := by
  have hnot : ∀ k, c ∉ backslashes k := fun k hk => hc (List.eq_of_mem_replicate hk)
  induction cs generalizing n with
  | nil => exact absurd h (hnot _)
  | cons d cs ih =>
    rw [escapeFrom] at h
    split at h
    · exact List.mem_cons_of_mem _ (ih h)
    · split at h
      · rename_i hstyle
        rw [Bool.and_eq_true] at hstyle
        rw [← eq_of_beq hstyle.1] at h
        rcases List.mem_cons.mp ((List.mem_append.mp h).resolve_left (hnot _)) with rfl | h
        · exact List.mem_cons_self
        · exact List.mem_cons_of_mem _ (ih h)
      · rcases List.mem_cons.mp ((List.mem_append.mp h).resolve_left (hnot _)) with rfl | h
        · exact List.mem_cons_self
        · exact List.mem_cons_of_mem _ (ih h)

/-! ## Characters beyond ASCII -/

theorem mem_expandTabs_iff {c : Char} (htab : c ≠ '\t') (hspace : c ≠ ' ') (cell : Nat)
    (cs : List Char) : c ∈ expandTabs cell cs ↔ c ∈ cs := by
  induction cs generalizing cell with
  | nil => rfl
  | cons d cs ih =>
    rw [expandTabs]
    split
    · rename_i hd
      simp [ih, eq_of_beq hd, htab, List.mem_replicate, hspace]
    · simp [ih]

theorem mem_join_iff {c : Char} {sep : List Char} (hc : c ∉ sep) (pieces : List (List Char)) :
    c ∈ Text.join sep pieces ↔ ∃ piece ∈ pieces, c ∈ piece := by
  induction pieces with
  | nil => simp [Text.join]
  | cons piece pieces ih =>
    cases pieces with
    | nil => simp [Text.join]
    | cons next pieces =>
      rw [Text.join]
      · simp [ih, hc]
      · exact List.cons_ne_nil _ _

section Beyond

variable {c : Char} (hc : 127 < c.toNat)

include hc

/-- A character beyond ASCII is none of ASCII. -/
theorem ne_of_beyond {d : Char} (hd : d.toNat ≤ 127) : c ≠ d := by
  rintro rfl
  omega

/-- **What is seen is printed**, if it is beyond ASCII. -/
theorem mem_printed_iff (cs : List Char) : c ∈ (printed cs).toList ↔ c ∈ visible cs := by
  have hline : c ∉ ['\n'] := by simpa using ne_of_beyond hc (by decide : '\n'.toNat ≤ 127)
  have hmove : isCursorMove c = false := by
    simp [isCursorMove]
    omega
  have htab := ne_of_beyond hc (by decide : '\t'.toNat ≤ 127)
  have hspace := ne_of_beyond hc (by decide : ' '.toNat ≤ 127)
  have hkept : c ∈ visible cs ↔ c ∈ (visible cs).filter fun c => !isCursorMove c := by
    simp [hmove]
  rw [printed, String.toList_ofList, List.mem_append, or_iff_left hline, mem_join_iff hline, hkept,
    ← Text.join_split '\n' ((visible cs).filter _), mem_join_iff hline, printedLines]
  constructor
  · rintro ⟨line, hmem, hc⟩
    obtain ⟨piece, hpiece, rfl⟩ := List.mem_map.mp hmem
    exact ⟨piece, hpiece, (mem_expandTabs_iff htab hspace 0 piece).mp hc⟩
  · rintro ⟨piece, hpiece, hc⟩
    exact ⟨_, List.mem_map_of_mem hpiece, (mem_expandTabs_iff htab hspace 0 piece).mpr hc⟩

/-- **What is escaped in a style is seen as it is**, if it is beyond
ASCII. -/
theorem mem_visible_escape_iff (cs : List Char) :
    c ∈ visible (' ' :: ' ' :: styled "yellow" (escape cs)) ↔ c ∈ cs := by
  have hslash := ne_of_beyond hc (by decide : '\\'.toNat ≤ 127)
  have hspace := ne_of_beyond hc (by decide : ' '.toNat ≤ 127)
  have hstyled : styled "yellow" (escape cs)
      = "[yellow]".toList ++ (escapeFrom 0 cs ++ '[' :: "/yellow]".toList) := by
    simp [styled, escape]
  -- the style is switched on in front of the text, and off behind it
  have hvisible : visible (' ' :: ' ' :: styled "yellow" (escape cs))
      = ' ' :: ' ' :: visibleFrom false 0 (escapeFrom 0 cs ++ '[' :: "/yellow]".toList) := by
    rw [hstyled]
    rfl
  rw [hvisible, List.mem_cons, List.mem_cons, or_iff_right hspace, or_iff_right hspace]
  refine ⟨fun h => ?_, fun h => mem_visibleFrom_escapeFrom hslash h 0 _⟩
  refine (List.mem_append.mp (mem_of_mem_visibleFrom hslash h)).elim
    (mem_of_mem_escapeFrom hslash) fun hstyle => ?_
  have hascii : ('[' :: "/yellow]".toList).all (·.toNat ≤ 127) = true := rfl
  exact absurd (of_decide_eq_true (List.all_eq_true.mp hascii c hstyle)) (by omega)

end Beyond

end TypedTraffic.Terminal
