import TypedTraffic.Client.Function
import TypedTraffic.Proofs.Client.Lexical
import TypedTraffic.Proofs.Naming.Identifier
import TypedTraffic.Text.LineEnd

/-!
# Captured text does not leave its literal

Whatever a text is, the quoted string made of it is read as one string,
which ends at its last quote and has the text as its value
(`isLiteral_quotedLiteral`). The path of a URL is put between two
substitutions of a template, and is read as the cooked text between them
(`readPiece_templateChars`): no character of it, alone or with one that
stands next to it, is the end of the template or the opening of a
substitution. Cooking turns a carriage return into a line feed; a path has
none.

So the lines of a function hold what the binding says, and captured text
adds nothing to them (`enclosed_functionLines`).
-/

namespace TypedTraffic.Client

open Text

/-! ## Strings -/

/-- A backslash in a string is read with what it escapes. -/
theorem readQuoted_escape {c : Char} {cs : List Char} {us : List Nat}
    (h : readEscape (c :: cs) = some (us, cs)) :
    readQuoted ('\\' :: c :: cs) = (readQuoted cs).map fun p => (us ++ p.1, p.2) := by
  rw [readQuoted]
  split
  · rename_i hnone
    rw [h] at hnone
    cases hnone
  · rename_i hsome
    rw [h] at hsome
    cases hsome
    rfl

/-- **A character inside single quotes** is read as itself. -/
theorem readQuoted_quotedChar (c : Char) (cs : List Char) :
    readQuoted (quotedChar c ++ cs) = (readQuoted cs).map fun p => (charUnits c ++ p.1, p.2) := by
  unfold quotedChar
  split
  · rename_i hc
    subst hc
    exact readQuoted_escape rfl
  · split
    · rename_i hc
      subst hc
      exact readQuoted_escape rfl
    · split
      · rename_i hc
        subst hc
        exact readQuoted_escape rfl
      · split
        · rename_i hc
          subst hc
          exact readQuoted_escape rfl
        · rename_i hbackslash hquote hfeed hreturn
          rw [List.singleton_append, readQuoted, if_neg (not_or.mpr ⟨hfeed, hreturn⟩)]
          · exact hquote
          · exact hbackslash

/-- **Quoted text is read to its end**, whatever stands behind it. -/
theorem readQuoted_flatMap (cs rest : List Char) :
    readQuoted (cs.flatMap quotedChar ++ '\x27' :: rest) = some (cs.flatMap charUnits, rest) := by
  induction cs with
  | nil =>
    rw [List.flatMap_nil, List.nil_append, readQuoted]
    rfl
  | cons c cs ih =>
    rw [List.flatMap_cons, List.append_assoc, readQuoted_quotedChar, ih]
    rfl

/-- No character is quoted by a line break. -/
theorem ne_lineBreak_of_mem_quotedChar (c : Char) :
    ∀ d ∈ quotedChar c, d ≠ '\n' ∧ d ≠ '\r' := by
  unfold quotedChar
  split
  · decide
  · split
    · decide
    · split
      · decide
      · split
        · decide
        · rename_i hfeed hreturn
          intro d hd
          rw [List.mem_singleton.mp hd]
          exact ⟨hfeed, hreturn⟩

/-- **A literal of a text**: a string on one line, which is read to its
end, whatever stands behind it, and has the text as its value. -/
structure IsLiteral (literal text : String) : Prop where
  /-- No line is broken in it. -/
  unbroken : '\n' ∉ literal.toList ∧ '\r' ∉ literal.toList
  /-- It is read as the text, and nothing behind it is. -/
  value : ∀ rest, readLiteral (literal.toList ++ rest) = some (units text, rest)

/-- **A quoted text is a literal of it.** -/
theorem isLiteral_quotedLiteral (s : String) : IsLiteral (quotedLiteral s) s := by
  have hinside : ∀ d ∈ s.toList.flatMap quotedChar, d ≠ '\n' ∧ d ≠ '\r' := by
    intro d hd
    obtain ⟨c, -, hd⟩ := List.mem_flatMap.mp hd
    exact ne_lineBreak_of_mem_quotedChar c d hd
  have hall : ∀ d ∈ (quotedLiteral s).toList, d ≠ '\n' ∧ d ≠ '\r' := by
    intro d hd
    rw [quotedLiteral, String.toList_ofList, List.cons_append, List.mem_cons, List.mem_append,
      List.mem_singleton] at hd
    rcases hd with rfl | hd | rfl
    · decide
    · exact hinside d hd
    · decide
  refine ⟨⟨fun h => (hall _ h).1 rfl, fun h => (hall _ h).2 rfl⟩, fun rest => ?_⟩
  rw [quotedLiteral, String.toList_ofList, List.cons_append, List.cons_append, List.append_assoc]
  exact readQuoted_flatMap s.toList rest

/-- A literal is of one text. -/
theorem IsLiteral.text_unique {literal a b : String} (ha : IsLiteral literal a)
    (hb : IsLiteral literal b) : a = b := by
  have hunits := (ha.value []).symm.trans (hb.value [])
  exact units_injective (Prod.mk.inj (Option.some.inj hunits)).1

/-- **No two texts are quoted alike.** -/
theorem quotedLiteral_injective {a b : String} (h : quotedLiteral a = quotedLiteral b) : a = b := by
  have hb := isLiteral_quotedLiteral b
  rw [← h] at hb
  exact (isLiteral_quotedLiteral a).text_unique hb

/-! ## Templates -/

theorem readPiece_backtick (rest : List Char) :
    readPiece ('\x60' :: rest) = some ([], .backtick, rest) := by
  rw [readPiece]

theorem readPiece_opening (rest : List Char) :
    readPiece ('$' :: '\x7b' :: rest) = some ([], .substitution, rest) := by
  rw [readPiece]

/-- A character of a template that escapes to itself is read as itself. -/
theorem readPiece_escape {c : Char} {cs : List Char}
    (h : readEscape (c :: cs) = some (charUnits c, cs)) :
    readPiece ('\\' :: c :: cs) = (readPiece cs).map fun p => (charUnits c ++ p.1, p.2) := by
  rw [readPiece]
  split
  · rename_i hnone
    rw [h] at hnone
    cases hnone
  · rename_i hsome
    rw [h] at hsome
    cases hsome
    rfl

/-- A character that means nothing else is read as itself, a carriage
return as a line feed. -/
theorem readPiece_char {c : Char} {cs : List Char} (hescape : c ≠ '\\') (hbacktick : c ≠ '\x60')
    (hopening : ¬ (c = '$' ∧ cs.head? = some '\x7b'))
    (hline : ¬ (c = '\r' ∧ cs.head? = some '\n')) :
    readPiece (c :: cs) = (readPiece cs).map fun p =>
      (charUnits (if c = '\r' then '\n' else c) ++ p.1, p.2) := by
  rw [readPiece]
  · exact hbacktick
  · rintro ds rfl rfl
    exact hopening ⟨rfl, rfl⟩
  · exact hescape
  · rintro ds rfl rfl
    exact hline ⟨rfl, rfl⟩

/-- The two characters of one line end are read as one. -/
theorem readPiece_return_feed (cs : List Char) :
    readPiece ('\r' :: '\n' :: cs) = readPiece ('\n' :: cs) := by
  rw [readPiece, readPiece_char (by decide) (by decide) (by simp) (by simp)]
  rfl

theorem unified_cons {c : Char} {cs : List Char} (h : ¬ (c = '\r' ∧ cs.head? = some '\n')) :
    unified (c :: cs) = (if c = '\r' then '\n' else c) :: unified cs := by
  rw [unified]
  rintro ds rfl rfl
  exact h ⟨rfl, rfl⟩

/-- Escaping puts nothing but a backslash in front. -/
theorem head?_templateChars {cs : List Char} {c : Char} (hc : c ≠ '\\')
    (h : (templateChars cs).head? = some c) : cs.head? = some c := by
  unfold templateChars at h
  split at h
  · exact absurd (Option.some.inj h).symm hc
  · exact absurd (Option.some.inj h).symm hc
  · exact absurd (Option.some.inj h).symm hc
  · exact h
  · exact h

/-- What stands in front of a substitution does not start with `c` unless
the text does. -/
theorem head?_templateChars_append {cs rest : List Char} {c : Char} (hc : c ≠ '\\' ∧ c ≠ '$')
    (h : (templateChars cs ++ '$' :: rest).head? = some c) : cs.head? = some c := by
  apply head?_templateChars hc.1
  cases htext : templateChars cs with
  | nil =>
    rw [htext] at h
    exact absurd (Option.some.inj h).symm hc.2
  | cons d ds =>
    rw [htext] at h
    exact h

/-- **The text in front of a substitution** is read as it is but for its
line ends. -/
theorem readPiece_templateChars (cs rest : List Char) :
    readPiece (templateChars cs ++ '$' :: '\x7b' :: rest)
      = some ((unified cs).flatMap charUnits, .substitution, rest) := by
  induction cs using templateChars.induct with
  | case1 cs ih =>
    rw [templateChars, List.cons_append, List.cons_append, List.cons_append,
      readPiece_escape (by rfl), readPiece_char (by decide) (by decide) (by simp) (by simp), ih,
      unified_cons (by simp), unified_cons (by simp)]
    rfl
  | case2 cs ih =>
    rw [templateChars, List.cons_append, List.cons_append, readPiece_escape (by rfl), ih,
      unified_cons (by simp)]
    rfl
  | case3 cs ih =>
    rw [templateChars, List.cons_append, List.cons_append, readPiece_escape (by rfl), ih,
      unified_cons (by simp)]
    rfl
  | case4 c cs hopening hbackslash hbacktick ih =>
    rw [templateChars.eq_4 _ _ hopening hbackslash hbacktick, List.cons_append]
    by_cases hline : c = '\r' ∧ cs.head? = some '\n'
    · obtain ⟨rfl, hfeed⟩ := hline
      obtain ⟨ds, rfl⟩ := List.head?_eq_some_iff.mp hfeed
      rw [templateChars.eq_4 _ _ (by simp) (by simp) (by simp), List.cons_append] at ih ⊢
      rw [readPiece_return_feed, ih, unified, unified_cons (by simp)]
      rfl
    · rw [readPiece_char (fun h => hbackslash h) (fun h => hbacktick h) ?_ ?_, ih,
        unified_cons hline]
      · rfl
      · rintro ⟨rfl, hbrace⟩
        obtain ⟨ds, rfl⟩ := List.head?_eq_some_iff.mp
          (head?_templateChars_append (by decide) hbrace)
        exact hopening ds rfl rfl
      · rintro ⟨rfl, hfeed⟩
        exact hline ⟨rfl, head?_templateChars_append (by decide) hfeed⟩
  | case5 =>
    exact readPiece_opening rest

/-- A name of the program is read up to its brace. -/
theorem readName_append {name : String} (h : Naming.isIdentifier name = true)
    (rest : List Char) : readName (name.toList ++ '\x7d' :: rest) = some (name, rest) := by
  have hname := (Naming.isIdentifier_iff.mp h).2
  unfold readName
  rw [List.takeWhile_append_of_pos hname, List.dropWhile_append_of_pos hname]
  simp [show isNameChar '\x7d' = false from rfl, h]

theorem readParts_backtick {cs rest : List Char} {text : List Nat}
    (h : readPiece cs = some (text, .backtick, rest)) : readParts cs = some (⟨text, []⟩, rest) := by
  rw [readParts]
  split <;> rename_i heq <;> rw [h] at heq <;> cases heq
  rfl

/-- **A substitution is read** with what stands behind it. -/
theorem readParts_substitution {cs rest : List Char} {text : List Nat} {name : String}
    (hpiece : readPiece cs = some (text, .substitution, name.toList ++ '\x7d' :: rest))
    (hname : Naming.isIdentifier name = true) {template : Template} {behind : List Char}
    (hparts : readParts rest = some (template, behind)) :
    readParts cs = some (⟨text, (name, template.head) :: template.parts⟩, behind) := by
  rw [readParts]
  split <;> rename_i heq <;> rw [hpiece] at heq <;> cases heq
  split <;> rename_i heq <;> rw [readName_append hname] at heq <;> cases heq
  rw [hparts]
  rfl

/-- The template of the URL of a request: the path between the base of
the URL and the query. -/
def urlTemplate (path : String) : String :=
  "`$\x7bbaseUrl\x7d" ++ templateText path ++ "$\x7bquery\x7d`"

/-- **The template of a URL** has two substitutions, and between them the
path, with line feeds for its line ends. -/
theorem readTemplate_urlTemplate (path : String) (rest : List Char) :
    readTemplate ((urlTemplate path).toList ++ rest)
      = some (⟨[], [("baseUrl", (unified path.toList).flatMap charUnits), ("query", [])]⟩, rest) := by
  have hend : readParts ('\x60' :: rest) = some (⟨[], []⟩, rest) :=
    readParts_backtick (readPiece_backtick rest)
  have hquery := readParts_substitution
    (readPiece_templateChars path.toList ("query".toList ++ '\x7d' :: '\x60' :: rest))
    (by decide) hend
  have hbase := readParts_substitution (readPiece_opening ("baseUrl".toList ++ '\x7d' :: _))
    (by decide) hquery
  have htemplate : (urlTemplate path).toList ++ rest
      = '\x60' :: '$' :: '\x7b' :: ("baseUrl".toList ++ '\x7d' :: (templateChars path.toList
          ++ '$' :: '\x7b' :: ("query".toList ++ '\x7d' :: '\x60' :: rest))) := by
    simp [urlTemplate, templateText]
  rw [htemplate]
  exact hbase

/-- A path that ends in a dollar sign opens no substitution. -/
example : (urlTemplate "/a\\$\x7bb$") = "`$\x7bbaseUrl\x7d/a\\\\\\$\x7bb$$\x7bquery\x7d`" := by
  decide

/-! ## The literals of a binding -/

/-- **Captured text that stays in its literals**: the lines of the
function of a binding hold its texts as literals. -/
structure Enclosed (b : Binding) : Prop where
  /-- The origin is the default of the base of the URL. -/
  origin : ∃ literal, (functionLines b)[8]? = some ("  const \x7b baseUrl = " ++ literal
      ++ ", headers = \x7b\x7d, ...fetchOptions \x7d = \x7b ...defaultOptions, ...options \x7d;")
    ∧ IsLiteral literal b.origin
  /-- The method is handed over. -/
  method : ∃ literal, (functionLines b)[13]? = some ("    method: " ++ literal ++ ",")
    ∧ IsLiteral literal b.method
  /-- Each header has a line of its own, in order. -/
  headers : ∀ (k : Nat) (h : Header), b.headers[k]? = some h → ∃ name value,
    (functionLines b)[16 + k]? = some ("      " ++ name ++ ": " ++ value ++ ",")
      ∧ IsLiteral name h.name ∧ IsLiteral value h.value
  /-- A template is the URL of the request. -/
  url : (functionLines b)[10]? = some ("  const requestUrl = " ++ urlTemplate b.path ++ ";")
  /-- It has two substitutions, and between them the path with its line ends
  unified. -/
  template : ∀ rest, readTemplate ((urlTemplate b.path).toList ++ rest)
    = some (⟨[], [("baseUrl", (unified b.path.toList).flatMap charUnits), ("query", [])]⟩, rest)
  /-- A path without carriage returns stands between them as it is. -/
  path : '\r' ∉ b.path.toList → ∀ rest, readTemplate ((urlTemplate b.path).toList ++ rest)
    = some (⟨[], [("baseUrl", units b.path), ("query", [])]⟩, rest)

/-- The lines of the headers stand behind those that come first. -/
theorem functionLines_getElem?_header {b : Binding} {k : Nat} {h : Header}
    (hk : b.headers[k]? = some h) : (functionLines b)[16 + k]? = some (headerLine h) := by
  have hhead : (functionHead b).length = 16 := rfl
  have hlt : k < (b.headers.map headerLine).length := by
    rw [List.length_map]
    exact (List.getElem?_eq_some_iff.mp hk).1
  rw [functionLines, List.append_assoc, List.getElem?_append_right (by omega), hhead,
    Nat.add_sub_cancel_left, List.getElem?_append_left hlt, List.getElem?_map, hk]
  rfl

/-- **Captured text stays in its literals**, whatever the binding is. -/
theorem enclosed_functionLines (b : Binding) : Enclosed b where
  origin := ⟨quotedLiteral b.origin, rfl, isLiteral_quotedLiteral b.origin⟩
  method := ⟨quotedLiteral b.method, rfl, isLiteral_quotedLiteral b.method⟩
  headers k h hk := by
    refine ⟨quotedLiteral h.name, quotedLiteral h.value, functionLines_getElem?_header hk, ?_, ?_⟩
    · exact isLiteral_quotedLiteral h.name
    · exact isLiteral_quotedLiteral h.value
  url := by
    have hline : "  const requestUrl = " ++ urlTemplate b.path ++ ";"
        = "  const requestUrl = `$\x7bbaseUrl\x7d" ++ templateText b.path ++ "$\x7bquery\x7d`;" := by
      apply String.toList_inj.mp
      simp [urlTemplate]
    rw [hline]
    rfl
  template := readTemplate_urlTemplate b.path
  path h rest := by rw [readTemplate_urlTemplate, unified_eq_self h, units]

end TypedTraffic.Client
