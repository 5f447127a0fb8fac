import TypedTraffic.Json.Reader
import TypedTraffic.Naming.Identifier
import TypedTraffic.Text.Numeral

/-!
# How literals of the generated program are read

The generated program is read by the lexical grammar of ECMAScript 2019.
A string in single quotes goes on to the first quote that is not escaped
(`readLiteral`), and its value is a list of code units (`units`), one or
two for each character. A template goes on to the first backtick that is
not escaped, with substitutions in between (`readTemplate`); the text of
its pieces is cooked, so that every line end in it is a line feed. Here a
substitution is a plain name, as all of the generated ones are.

In both of them a backslash stands for what is made of it and the
characters behind it (`readEscape`). What is read leaves less to read, so
the readers come to an end (`readEscape_length`, `readPiece_length`).
-/

namespace TypedTraffic.Client

open Text

/-! ## Code units -/

/-- The code units of the code point with a given number: the number
itself, or a surrogate pair. -/
def pointUnits (n : Nat) : List Nat :=
  if n < 0x10000 then [n] else [0xD800 + (n - 0x10000) / 0x400, 0xDC00 + (n - 0x10000) % 0x400]

/-- The code units of a character. -/
def charUnits (c : Char) : List Nat := pointUnits c.toNat

/-- **The code units of a text.** -/
def units (s : String) : List Nat := s.toList.flatMap charUnits

/-- No unit that is a character of its own is half of a pair. -/
theorem charUnits_append_inj {c d : Char} {us vs : List Nat}
    (h : charUnits c ++ us = charUnits d ++ vs) : c = d ∧ us = vs := by
  have hc : c.toNat < 0xD800 ∨ 0xDFFF < c.toNat ∧ c.toNat < 0x110000 := c.valid
  have hd : d.toNat < 0xD800 ∨ 0xDFFF < d.toNat ∧ d.toNat < 0x110000 := d.valid
  rw [← Char.toNat_inj]
  unfold charUnits pointUnits at h
  split at h <;> split at h <;>
    simp only [List.cons_append, List.nil_append, List.cons.injEq] at h
  · exact h
  · omega
  · omega
  · exact ⟨by omega, h.2.2⟩

/-- **The code units of a text name it.** -/
theorem units_injective {a b : String} (h : units a = units b) : a = b := by
  have inj : ∀ {l m : List Char}, l.flatMap charUnits = m.flatMap charUnits → l = m := by
    have hne : ∀ c, charUnits c ≠ [] := by
      intro c
      unfold charUnits pointUnits
      split <;> exact List.cons_ne_nil _ _
    intro l
    induction l with
    | nil =>
      intro m hm
      cases m with
      | nil => rfl
      | cons d m => exact absurd (List.append_eq_nil_iff.mp hm.symm).1 (hne d)
    | cons c l ih =>
      intro m hm
      cases m with
      | nil => exact absurd (List.append_eq_nil_iff.mp hm).1 (hne c)
      | cons d m =>
        obtain ⟨rfl, hrest⟩ := charUnits_append_inj hm
        rw [ih hrest]
  exact String.toList_inj.mp (inj h)

/-! ## Escapes -/

/-- The line ends of the grammar. -/
def isLineEnd (c : Char) : Bool := c ∈ ['\n', '\r', '\u2028', '\u2029']

/-- The units of the escape of one character. -/
def escapedUnits : Char → List Nat
  | 'b' => [0x08]
  | 't' => [0x09]
  | 'n' => [0x0A]
  | 'v' => [0x0B]
  | 'f' => [0x0C]
  | 'r' => [0x0D]
  | c => charUnits c

/-- An escape of a code point, from behind its opening brace. -/
def readPoint (cs : List Char) : Option (List Nat × List Char) :=
  let digits := cs.takeWhile isHex
  match cs.dropWhile isHex with
  | '\x7d' :: rest =>
    if digits ≠ [] ∧ numeral 16 digits < 0x110000 then some (pointUnits (numeral 16 digits), rest)
    else none
  | _ => none

/-- **What a backslash stands for** with the text behind it: code units,
none at the end of a line, and the rest. -/
def readEscape : List Char → Option (List Nat × List Char)
  | '\r' :: '\n' :: rest => some ([], rest)
  | 'x' :: a :: b :: rest => (Json.hexNumber? '0' '0' a b).map fun n => ([n], rest)
  | 'u' :: '\x7b' :: rest => readPoint rest
  | 'u' :: a :: b :: c :: d :: rest => (Json.hexNumber? a b c d).map fun n => ([n], rest)
  | c :: rest =>
    if isLineEnd c then some ([], rest)
    else if c = '0' ∧ (rest.head?.map Char.isDigit).getD false = false then some ([0], rest)
    else if c.isDigit ∨ c = 'x' ∨ c = 'u' then none
    else some (escapedUnits c, rest)
  | [] => none

theorem readPoint_length {cs rest : List Char} {us : List Nat}
    (h : readPoint cs = some (us, rest)) : rest.length < cs.length := by
  unfold readPoint at h
  dsimp only at h
  split at h
  · rename_i tail htail
    have hlength := congrArg List.length (List.takeWhile_append_dropWhile (p := isHex) (l := cs))
    rw [List.length_append, htail, List.length_cons] at hlength
    split at h
    · cases h
      omega
    · cases h
  · cases h

/-- **An escape leaves less to read.** -/
theorem readEscape_length {cs rest : List Char} {us : List Nat}
    (h : readEscape cs = some (us, rest)) : rest.length < cs.length := by
  unfold readEscape at h
  split at h
  · cases h
    simp only [List.length_cons]
    omega
  · obtain ⟨n, -, hn⟩ := Option.map_eq_some_iff.mp h
    cases hn
    simp only [List.length_cons]
    omega
  · have hpoint := readPoint_length h
    simp only [List.length_cons]
    omega
  · obtain ⟨n, -, hn⟩ := Option.map_eq_some_iff.mp h
    cases hn
    simp only [List.length_cons]
    omega
  · split at h
    · cases h
      exact Nat.lt_succ_self _
    · split at h
      · cases h
        exact Nat.lt_succ_self _
      · split at h
        · cases h
        · cases h
          exact Nat.lt_succ_self _
  · cases h

/-! ## Strings -/

/-- The rest of a string in single quotes: its code units, and what stands
behind it. A line feed or a carriage return may not stand in it as it
is. -/
def readQuoted (cs : List Char) : Option (List Nat × List Char) :=
  match cs with
  | [] => none
  | '\x27' :: rest => some ([], rest)
  | '\\' :: rest =>
    match _h : readEscape rest with
    | none => none
    | some (us, rest') => (readQuoted rest').map fun p => (us ++ p.1, p.2)
  | c :: rest =>
    if c = '\n' ∨ c = '\r' then none
    else (readQuoted rest).map fun p => (charUnits c ++ p.1, p.2)
termination_by cs.length
decreasing_by
  · have hlength := readEscape_length ‹_›
    simp only [List.length_cons]
    omega
  · simp

/-- **A string in single quotes**: its code units, and what stands behind
it. -/
def readLiteral : List Char → Option (List Nat × List Char)
  | '\x27' :: rest => readQuoted rest
  | _ => none

/-! ## Templates -/

/-- What a piece of a template ends with. -/
inductive PieceEnd where
  /-- The backtick at the end of the template. -/
  | backtick
  /-- The opening of a substitution. -/
  | substitution
  deriving DecidableEq

/-- **A piece of a template**: its cooked text, what ends it, and what
stands behind. -/
def readPiece (cs : List Char) : Option (List Nat × PieceEnd × List Char) :=
  match cs with
  | [] => none
  | '\x60' :: rest => some ([], .backtick, rest)
  | '$' :: '\x7b' :: rest => some ([], .substitution, rest)
  | '\\' :: rest =>
    match _h : readEscape rest with
    | none => none
    | some (us, rest') => (readPiece rest').map fun p => (us ++ p.1, p.2)
  | '\r' :: '\n' :: rest => (readPiece rest).map fun p => (charUnits '\n' ++ p.1, p.2)
  | c :: rest =>
    (readPiece rest).map fun p => (charUnits (if c = '\r' then '\n' else c) ++ p.1, p.2)
termination_by cs.length
decreasing_by
  · have hlength := readEscape_length ‹_›
    simp only [List.length_cons]
    omega
  · simp only [List.length_cons]
    omega
  · simp

/-- A plain name up to the end of a substitution, and what stands
behind. -/
def readName (cs : List Char) : Option (String × List Char) :=
  let name := String.ofList (cs.takeWhile isNameChar)
  match cs.dropWhile isNameChar with
  | '\x7d' :: rest => if Naming.isIdentifier name then some (name, rest) else none
  | _ => none

/-- **A template**: cooked text and names in turns. -/
structure Template where
  /-- The text in front of the first substitution. -/
  head : List Nat
  /-- The names that are substituted, each with the text behind it. -/
  parts : List (String × List Nat)
  deriving DecidableEq

/-- Units in front change nothing but the units. -/
theorem exists_of_prepended {α : Type} {o : Option (List Nat × α)} {ws us : List Nat} {x : α}
    (h : (o.map fun p => (ws ++ p.1, p.2)) = some (us, x)) : ∃ vs, o = some (vs, x) := by
  obtain ⟨⟨vs, y⟩, rfl, heq⟩ := Option.map_eq_some_iff.mp h
  exact ⟨vs, by rw [← (Prod.mk.inj heq).2]⟩

/-- **A piece leaves less to read.** -/
theorem readPiece_length {cs rest : List Char} {us : List Nat} {stop : PieceEnd}
    (h : readPiece cs = some (us, stop, rest)) : rest.length < cs.length := by
  fun_induction readPiece cs generalizing us with
  | case1 => cases h
  | case2 tail =>
    cases h
    exact Nat.lt_succ_self _
  | case3 tail =>
    cases h
    simp only [List.length_cons]
    omega
  | case4 tail hescape => cases h
  | case5 tail ws more hescape ih =>
    obtain ⟨vs, hvs⟩ := exists_of_prepended h
    have hlength := readEscape_length hescape
    have hmore := ih hvs
    simp only [List.length_cons]
    omega
  | case6 tail ih =>
    obtain ⟨vs, hvs⟩ := exists_of_prepended h
    have hmore := ih hvs
    simp only [List.length_cons]
    omega
  | case7 c tail _ _ _ _ ih =>
    obtain ⟨vs, hvs⟩ := exists_of_prepended h
    have hmore := ih hvs
    simp only [List.length_cons]
    omega

theorem readName_length {cs rest : List Char} {name : String}
    (h : readName cs = some (name, rest)) : rest.length < cs.length := by
  unfold readName at h
  dsimp only at h
  split at h
  · rename_i tail htail
    have hlength := congrArg List.length
      (List.takeWhile_append_dropWhile (p := isNameChar) (l := cs))
    rw [List.length_append, htail, List.length_cons] at hlength
    split at h
    · cases h
      omega
    · cases h
  · cases h

/-- The rest of a template, and what stands behind it. -/
def readParts (cs : List Char) : Option (Template × List Char) :=
  match _h : readPiece cs with
  | none => none
  | some (text, .backtick, rest) => some (⟨text, []⟩, rest)
  | some (text, .substitution, rest) =>
    match _h : readName rest with
    | none => none
    | some (name, rest') =>
      (readParts rest').map fun p => (⟨text, (name, p.1.head) :: p.1.parts⟩, p.2)
termination_by cs.length
decreasing_by
  have hpiece := readPiece_length ‹_›
  have hname := readName_length ‹_›
  omega

/-- **A template between backticks**, and what stands behind it. -/
def readTemplate : List Char → Option (Template × List Char)
  | '\x60' :: rest => readParts rest
  | _ => none

end TypedTraffic.Client
