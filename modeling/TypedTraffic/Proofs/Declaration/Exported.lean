import TypedTraffic.Client.Module
import TypedTraffic.Proofs.Declaration.Header
import TypedTraffic.Proofs.Declaration.Marked
import TypedTraffic.Proofs.Declaration.Rooted

/-!
# What counts as a declaration

The text of a definition is read in two ways. The names it declares are
the words behind a keyword and blanks, at any place of the text; a module
exports what stands behind a keyword and one space at the start of a line.
Both ways find the same declarations (`Definition.Spelled.declaredNames_text`,
`Definition.Spelled.exported_text`): a keyword that is the name of a field
stands behind two spaces and in front of a mark that is no blank.

A text **reads as** some names and an exported text when it shows these
names, whatever follows it, and is exported as that text. Texts that read
as something can be put one below the other (`ReadsAs.append`), so nothing
has to be said but what a single line reads as. A type name may be one of
the keywords here.
-/

namespace TypedTraffic

open Naming Text

namespace Canonical

/-! ## The names found in some characters -/

/-- **The names behind the keywords** among some characters. -/
def found (cs : List Char) : List (List Char) := declarations none (tokens cs)

theorem headers_eq_found (text : String) :
    headers text = (found text.toList).map String.ofList := rfl

theorem push_append_mark (x c : Char) (ts us : List Token) :
    Token.push x (ts ++ .mark c :: us) = Token.push x ts ++ .mark c :: us := by
  unfold Token.push
  split
  · cases ts with
    | nil => rfl
    | cons t ts => cases t <;> rfl
  · rfl

/-- A mark is a token of its own. -/
theorem tokens_append_mark {c : Char} (hc : isWord c = false) (cs ds : List Char) :
    tokens (cs ++ c :: ds) = tokens cs ++ .mark c :: tokens ds := by
  induction cs with
  | nil =>
    show Token.push c (tokens ds) = .mark c :: tokens ds
    simp [Token.push, hc]
  | cons x cs ih =>
    show Token.push x (tokens (cs ++ c :: ds)) = Token.push x (tokens cs) ++ .mark c :: tokens ds
    rw [ih, push_append_mark]

/-- A mark that is no blank ends whatever it stands behind. -/
theorem declarations_append_mark {c : Char} (hc : isBlank c = false) (pending : Option Bool)
    (ts us : List Token) :
    declarations pending (ts ++ .mark c :: us)
      = declarations pending ts ++ declarations none us := by
  induction ts generalizing pending with
  | nil =>
    have hnil : declarations pending [] = [] := by
      rcases pending with _ | _ | _ <;> rfl
    rw [hnil, List.nil_append, List.nil_append, declarations_mark, hc, if_neg Bool.false_ne_true]
  | cons t ts ih =>
    cases t with
    | mark d => rw [List.cons_append, declarations_mark, declarations_mark, ih]
    | word w =>
      rcases pending with _ | _ | _
      · exact ih _
      · exact ih _
      · exact congrArg (w :: ·) (ih none)

/-- **A mark that is no blank** parts what is found in front of it from
what is found behind it. -/
theorem found_append_mark {c : Char} (hword : isWord c = false) (hblank : isBlank c = false)
    (cs ds : List Char) : found (cs ++ c :: ds) = found cs ++ found ds := by
  rw [found, tokens_append_mark hword, declarations_append_mark hblank]
  rfl

/-- A mark in front of everything makes no difference. -/
theorem found_mark {c : Char} (hword : isWord c = false) (ds : List Char) :
    found (c :: ds) = found ds := by
  have htokens : tokens (c :: ds) = .mark c :: tokens ds := tokens_append_mark hword [] ds
  rw [found, htokens, declarations_mark, Option.map_none, ite_self]
  rfl

/-- What is found in proper tokens. -/
theorem found_charsOf {ts : List Token} (h : Proper ts) :
    found (charsOf ts) = declarations none ts := by
  rw [found, tokens_charsOf h]

/-- Nothing is found in a word. -/
theorem found_word {n : String} (hn : IsWordName n) : found n.toList = [] := by
  have htoken : n.toList = charsOf [nameToken n] := (List.append_nil _).symm
  have hapart : Apart [] := trivial
  rw [htoken, found_charsOf (proper_nameToken hn hapart trivial), nameToken, declarations_word]
  rfl

/-- **Behind a keyword** the word is found that stands there. -/
theorem found_keyword {k n : String} (hk : IsWordName k) (hkey : isKeyword k.toList = true)
    (hn : IsWordName n) : found (k ++ " " ++ n ++ " ").toList = [n.toList] := by
  have htokens : (k ++ " " ++ n ++ " ").toList
      = charsOf [nameToken k, .mark ' ', nameToken n, .mark ' '] := by
    simp [nameToken, Token.chars]
  have hname : Proper [nameToken n, .mark ' '] := proper_nameToken hn trivial ⟨by decide, trivial⟩
  have hproper : Proper [nameToken k, .mark ' ', nameToken n, .mark ' '] :=
    proper_nameToken hk trivial ⟨by decide, hname⟩
  rw [htokens, found_charsOf hproper, nameToken, declarations_word, hkey]
  rfl

end Canonical

namespace Client

open Canonical

/-! ## Lines -/

/-- The characters of a text with its declarations exported. -/
def exportedChars (cs : List Char) : List Char :=
  join ['\n'] ((split '\n' cs).map exportedLine)

theorem exported_eq (text : String) :
    exported text = String.ofList (exportedChars text.toList) := rfl

theorem join_append_join (sep : List Char) {xs ys : List (List Char)} (hx : xs ≠ [])
    (hy : ys ≠ []) :
    join sep (xs ++ ys) = join sep xs ++ sep ++ join sep ys := by
  induction xs with
  | nil => exact absurd rfl hx
  | cons x xs ih =>
    cases xs with
    | nil =>
      obtain ⟨y, ys, rfl⟩ := List.exists_cons_of_ne_nil hy
      rfl
    | cons z zs =>
      have hrest := ih (List.cons_ne_nil z zs)
      simp only [List.cons_append, join, List.append_assoc] at hrest ⊢
      rw [hrest]

/-- **Declarations are exported line by line.** -/
theorem exportedChars_append (cs ds : List Char) :
    exportedChars (cs ++ '\n' :: ds) = exportedChars cs ++ '\n' :: exportedChars ds := by
  have hne : ∀ cs : List Char, (split '\n' cs).map exportedLine ≠ [] := fun cs h =>
    split_ne_nil '\n' cs (List.map_eq_nil_iff.mp h)
  rw [exportedChars, split_append_cons, List.map_append, join_append_join _ (hne cs) (hne ds),
    List.append_assoc]
  rfl

theorem exportedChars_line {cs : List Char} (h : '\n' ∉ cs) :
    exportedChars cs = exportedLine cs := by
  rw [exportedChars, split_of_not_mem h]
  rfl

/-- **A text that reads as some names and an exported text.** -/
structure ReadsAs (text : List Char) (names : List String) (emitted : List Char) : Prop where
  /-- The names are found in it, whatever follows. -/
  found : ∀ rest, found (text ++ rest) = names.map String.toList ++ found rest
  /-- It is exported as the other text. -/
  exported : exportedChars text = emitted

namespace ReadsAs

theorem nil : ReadsAs [] [] [] := ⟨fun _ => rfl, rfl⟩

/-- **One text below the other.** -/
theorem append {text text' emitted emitted' : List Char} {names names' : List String}
    (h : ReadsAs text names emitted) (h' : ReadsAs text' names' emitted') :
    ReadsAs (text ++ '\n' :: text') (names ++ names') (emitted ++ '\n' :: emitted') where
  found rest := by
    rw [List.append_assoc, List.cons_append, h.found, found_mark (by decide), h'.found,
      List.map_append, List.append_assoc]
  exported := by rw [exportedChars_append, h.exported, h'.exported]

/-- **Several texts below one.** -/
theorem flatMap {α : Type} {text emitted : List Char} {names : List String}
    (h : ReadsAs text names emitted) {xs : List α} {texts emissions : α → List Char}
    {namesOf : α → List String}
    (hx : ∀ x ∈ xs, ReadsAs (texts x) (namesOf x) (emissions x)) :
    ReadsAs (text ++ xs.flatMap fun x => '\n' :: texts x) (names ++ xs.flatMap namesOf)
      (emitted ++ xs.flatMap fun x => '\n' :: emissions x) := by
  induction xs generalizing text names emitted with
  | nil => simpa only [List.flatMap_nil, List.append_nil] using h
  | cons x xs ih =>
    have hstep := ih (h.append (hx x List.mem_cons_self)) fun y hy =>
      hx y (List.mem_cons_of_mem _ hy)
    simpa only [List.flatMap_cons, List.append_assoc, List.cons_append] using hstep

/-- **A line that ends in a mark**, by what is found in front of the
mark. -/
theorem line {body : List Char} {c : Char} {names : List String} {emitted : List Char}
    (hword : isWord c = false) (hblank : isBlank c = false)
    (hfound : Canonical.found body = names.map String.toList) (hline : '\n' ∉ body ++ [c])
    (hexported : exportedLine (body ++ [c]) = emitted) : ReadsAs (body ++ [c]) names emitted where
  found rest := by
    rw [List.append_assoc, List.singleton_append, found_append_mark hword hblank, hfound]
  exported := by rw [exportedChars_line hline, hexported]

end ReadsAs

/-! ## The lines of a definition -/

theorem newline_not_mem_of_isIdentifier {n : String} (hn : isIdentifier n = true) :
    '\n' ∉ n.toList := by
  intro h
  exact absurd ((isIdentifier_iff.mp hn).2 _ h) (by decide)

/-- The header of an interface declares its name and is exported. -/
theorem readsAs_header {n : String} (hn : isIdentifier n = true) :
    ReadsAs ("interface " ++ n ++ " \x7b").toList [n]
      ("export interface " ++ n ++ " \x7b").toList := by
  have hbody : ("interface " ++ n ++ " \x7b").toList
      = ("interface" ++ " " ++ n ++ " ").toList ++ ['\x7b'] := by simp
  have hkey : IsWordName "interface" := isWordName_of_isIdentifier (by decide)
  rw [hbody]
  refine ReadsAs.line (by decide) (by decide)
    (found_keyword hkey (by decide) (isWordName_of_isIdentifier hn)) ?_ ?_
  · simpa using newline_not_mem_of_isIdentifier hn
  · rw [← hbody, exportedLine, if_pos (by simp)]
    simp

/-- The line of an alias declares its name and is exported. -/
theorem readsAs_alias {n : String} (hn : isIdentifier n = true) (target : AliasTarget) :
    ReadsAs (Definition.alias n target).text.toList [n]
      ("export " ++ (Definition.alias n target).text).toList := by
  have hbody : (Definition.alias n target).text.toList
      = ("type" ++ " " ++ n ++ " ").toList ++ '=' :: (' ' :: target.text.toList) ++ [';'] := by
    simp [Definition.text]
  have hkey : IsWordName "type" := isWordName_of_isIdentifier (by decide)
  have htarget : found (' ' :: target.text.toList) = [] := by
    cases target <;> decide +kernel
  rw [hbody]
  refine ReadsAs.line (by decide) (by decide) ?_ ?_ ?_
  · rw [found_append_mark (by decide) (by decide), htarget, List.append_nil]
    exact found_keyword hkey (by decide) (isWordName_of_isIdentifier hn)
  · have hline : '\n' ∉ target.text.toList := by
      cases target <;> decide
    simpa [hline] using newline_not_mem_of_isIdentifier hn
  · rw [← hbody, exportedLine, if_pos (by simp [Definition.text])]
    simp

/-- Nothing is found in a type, and it is written in one line. -/
theorem found_type {t : TypeExpr} (ht : ∀ n, t.reference? = some n → isIdentifier n = true) :
    found (' ' :: t.text.toList) = [] ∧ '\n' ∉ t.text.toList := by
  induction t with
  | named n =>
    have hn := ht n rfl
    refine ⟨?_, newline_not_mem_of_isIdentifier hn⟩
    rw [found_mark (by decide)]
    exact found_word (isWordName_of_isIdentifier hn)
  | array element ih =>
    obtain ⟨hfound, hline⟩ := ih ht
    have htext : ' ' :: (TypeExpr.array element).text.toList
        = (' ' :: element.text.toList) ++ '[' :: [']'] := by simp [TypeExpr.text]
    refine ⟨?_, by simpa [TypeExpr.text] using hline⟩
    rw [htext, found_append_mark (by decide) (by decide), hfound]
    decide +kernel
  | _ => exact ⟨by decide +kernel, by decide⟩

/-- **The line of a field** declares nothing and is left as it is, also
when the field is called like a keyword. -/
theorem readsAs_field {f : Field} (hname : isIdentifier f.name = true)
    (htype : ∀ n, f.type.reference? = some n → isIdentifier n = true) :
    ReadsAs f.line.toList [] f.line.toList := by
  obtain ⟨hfound, hline⟩ := found_type htype
  have hfront : found (' ' :: ' ' :: f.name.toList) = [] := by
    rw [found_mark (by decide), found_mark (by decide)]
    exact found_word (isWordName_of_isIdentifier hname)
  have hbehind :
      found (' ' :: ' ' :: f.name.toList ++ ':' :: (' ' :: f.type.text.toList)) = [] := by
    rw [found_append_mark (by decide) (by decide), hfront, hfound]
    rfl
  have hnewline := newline_not_mem_of_isIdentifier hname
  rcases f with ⟨name, type, optional⟩
  cases optional
  · have hbody : (Field.mk name type false).line.toList
        = (' ' :: ' ' :: name.toList ++ ':' :: (' ' :: type.text.toList)) ++ [';'] := by
      simp [Field.line]
    rw [hbody]
    exact ReadsAs.line (by decide) (by decide) hbehind (by simpa using ⟨hnewline, hline⟩) rfl
  · have hbody : (Field.mk name type true).line.toList
        = (' ' :: ' ' :: name.toList ++ '?' :: ':' :: (' ' :: type.text.toList)) ++ [';'] := by
      simp [Field.line]
    have hmarked : found (' ' :: ' ' :: name.toList ++ '?' :: ':' :: (' ' :: type.text.toList))
        = [] := by
      rw [found_append_mark (by decide) (by decide), hfront, found_mark (by decide), hfound]
      rfl
    rw [hbody]
    exact ReadsAs.line (by decide) (by decide) hmarked (by simpa using ⟨hnewline, hline⟩) rfl

/-- The line that closes an interface. -/
theorem readsAs_close : ReadsAs ['\x7d'] [] ['\x7d'] :=
  @ReadsAs.line [] '\x7d' [] ['\x7d'] (by decide) (by decide) rfl (by decide) (by decide)

end Client

open Client Canonical

/-- **An interface** declares its name, and its header is exported. -/
theorem Interface.readsAs {i : Interface} (hname : isIdentifier i.name = true)
    (hfields : ∀ f ∈ i.fields, isIdentifier f.name = true)
    (htypes : ∀ f ∈ i.fields, ∀ n, f.type.reference? = some n → isIdentifier n = true) :
    ReadsAs i.text.toList [i.name] ("export " ++ i.text).toList := by
  have hlines := ((readsAs_header hname).flatMap fun f hf =>
    readsAs_field (hfields f hf) (htypes f hf)).append readsAs_close
  have hnone : i.fields.flatMap (fun _ => ([] : List String)) = [] := by simp
  rw [hnone, List.append_nil, List.append_nil] at hlines
  rw [String.toList_append, Interface.toList_text]
  simpa using hlines

/-! ## Definitions -/

/-- **A definition that is spelled in identifiers.** Its type names may be
words of the language of declarations. -/
structure Definition.Spelled (d : Definition) : Prop where
  /-- Declared names are identifiers. -/
  names : ∀ n ∈ d.names, isIdentifier n = true
  /-- No name is declared twice. -/
  nodup : d.names.Nodup
  /-- The names of fields are identifiers. -/
  fieldNames : ∀ f ∈ d.fieldNames, isIdentifier f = true
  /-- References are identifiers. -/
  references : ∀ n ∈ d.references, isIdentifier n = true

/-- **A definition rooted in an identifier** is spelled in identifiers. -/
theorem Definition.Rooted.spelled {root : String} {d : Definition} (h : d.Rooted root)
    (hroot : isIdentifier root = true) : d.Spelled := by
  have hnames : ∀ n ∈ d.names, isIdentifier n = true := by
    intro n hn
    obtain ⟨tail, rfl, htail⟩ := h.stems n hn
    exact isIdentifier_append hroot htail
  refine ⟨hnames, h.nodup, h.fieldNames, fun n hn => hnames n ?_⟩
  rw [Definition.names_eq_cons]
  exact List.mem_cons_of_mem _ (h.closed n hn)

/-- The texts of the declarations of a definition. -/
def Definition.declarationTexts : Definition → List String
  | .interfaces root auxiliary => (root :: auxiliary).map Interface.text
  | .alias name target => [(Definition.alias name target).text]

/-- A definition is its declarations with blank lines between. -/
theorem Definition.text_eq_intercalate (d : Definition) :
    d.text = "\n\n".intercalate d.declarationTexts := by
  cases d <;> rfl

/-- **A definition with `export` in front of each declaration.** -/
def Definition.exportedText (d : Definition) : String :=
  "\n\n".intercalate (d.declarationTexts.map ("export " ++ ·))

namespace Definition.Spelled

variable {d : Definition} (h : d.Spelled)

include h

/-- **The text of a definition** reads as the names it declares, and as the
text with `export` in front of each declaration. -/
theorem readsAs : ReadsAs d.text.toList d.names d.exportedText.toList := by
  cases d with
  | interfaces root auxiliary =>
    have hi : ∀ i ∈ root :: auxiliary,
        ReadsAs i.text.toList [i.name] ("export " ++ i.text).toList := by
      intro i hi
      have hfield : ∀ f ∈ i.fields, f ∈ (Definition.interfaces root auxiliary).fields :=
        fun f hf => List.mem_flatMap.mpr ⟨i, hi, hf⟩
      refine Interface.readsAs (h.names _ (List.mem_map_of_mem hi))
        (fun f hf => h.fieldNames _ (List.mem_map_of_mem (hfield f hf))) fun f hf n hn => ?_
      exact h.references n (mem_references.mpr ⟨f, hfield f hf, hn⟩)
    have hall := (hi root List.mem_cons_self).flatMap fun i hmem =>
      ReadsAs.nil.append (hi i (List.mem_cons_of_mem _ hmem))
    rw [text, exportedText, declarationTexts, List.map_cons, List.map_cons,
      toList_intercalate_blankLine, toList_intercalate_blankLine, List.map_map, List.flatMap_map,
      List.flatMap_map, Definition.names, List.map_cons, List.map_eq_flatMap]
    exact hall
  | «alias» name target =>
    have hname := h.names name List.mem_cons_self
    exact readsAs_alias hname target

/-- **The names behind the keywords** of a definition's text are the names
it declares, also where type names are keywords themselves. -/
theorem headers_text : headers d.text = d.names := by
  have hfound := h.readsAs.found []
  have hnil : Canonical.found [] = [] := rfl
  rw [List.append_nil, hnil, List.append_nil] at hfound
  have hback : ∀ n ∈ d.names, (String.ofList ∘ String.toList) n = n := fun n _ =>
    String.ofList_toList
  rw [headers_eq_found, hfound, List.map_map, List.map_congr_left hback, List.map_id']

/-- **The names a definition's text declares** are those of its headers or
of its alias, in order and without omission. -/
theorem declaredNames_text : declaredNames d.text = d.names := by
  rw [declaredNames_eq, h.headers_text, distinct_of_nodup h.nodup]

/-- **A module exports the declarations of a definition** and changes
nothing else in it. -/
theorem exported_text : exported d.text = d.exportedText := by
  rw [exported_eq, h.readsAs.exported, String.ofList_toList]

end Definition.Spelled

/-- **The first name a definition's text declares** is its own, whatever else
stands in the definition. -/
theorem Definition.head?_declaredNames {d : Definition} (h : isIdentifier d.name = true) :
    (declaredNames d.text).head? = some d.name := by
  have hfirst : ∃ line emitted rest,
      ReadsAs line [d.name] emitted ∧ d.text.toList = line ++ rest := by
    cases d with
    | interfaces root auxiliary =>
      have htext : (Definition.interfaces root auxiliary).text.toList
          = root.text.toList ++ (auxiliary.map Interface.text).flatMap
              fun t => '\n' :: '\n' :: t.toList := by
        rw [Definition.text, List.map_cons, toList_intercalate_blankLine]
      rw [Interface.toList_text, List.append_assoc, List.append_assoc] at htext
      exact ⟨_, _, _, readsAs_header h, htext⟩
    | «alias» name target => exact ⟨_, _, [], readsAs_alias h target, (List.append_nil _).symm⟩
  obtain ⟨line, emitted, rest, hline, htext⟩ := hfirst
  rw [declaredNames_eq, headers_eq_found, htext, hline.found]
  simp [Ordered.distinct]

end TypedTraffic
