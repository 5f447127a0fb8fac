import TypedTraffic.Declaration.Canonical
import TypedTraffic.Proofs.Declaration.Legible

/-!
# Definitions as tokens

A definition is written token by token: words of the language of
declarations, names, marks and gaps. What varies between its text, its
text with the blanks collapsed and its canonical text is the gaps and
the way the names are written, which is a **hand**. One definition of
what is written (`Definition.written`) serves all of them.

In a plain hand the characters of the tokens are those of the text
(`charsOf_written`), and the names a definition declares are the names
that are found behind the keywords of its text (`headers_text`).
-/

namespace TypedTraffic

open Naming Text Canonical

/-! ## Hands -/

/-- The token of a name. -/
def nameToken (n : String) : Token := .word n.toList

/-- **A hand**: how the gaps and the names of a definition are written. -/
structure Hand where
  /-- The gap in front of a field. -/
  indent : List Token
  /-- The gap in front of the closing brace. -/
  close : List Token
  /-- The gap between two declarations. -/
  between : List Token
  /-- A declared name, with the gap behind it. -/
  declared : String → List Token
  /-- A reference. -/
  reference : String → List Token
  /-- The name of a field. -/
  field : String → List Token

/-- **The tokens of a type.** -/
def TypeExpr.written (h : Hand) : TypeExpr → List Token
  | .any => [.word "any".toList]
  | .boolean => [.word "boolean".toList]
  | .number => [.word "number".toList]
  | .string => [.word "string".toList]
  | .queryValue =>
    [.word "string".toList, .mark ' ', .mark '|', .mark ' ', .word "number".toList,
      .mark ' ', .mark '|', .mark ' ', .word "boolean".toList]
  | .named name => h.reference name
  | .array element => element.written h ++ [.mark '[', .mark ']']

/-- The tokens of what an alias stands for. -/
def AliasTarget.written : AliasTarget → List Token
  | .any => [.word "any".toList]
  | .textRecord =>
    [.word "Record".toList, .mark '<', .word "string".toList, .mark ',', .mark ' ',
      .word "string".toList, .mark '>']

/-- The mark behind the name of an optional field. -/
def Field.optionalMark (f : Field) : List Token := if f.optional then [.mark '?'] else []

/-- **The tokens of a field.** -/
def Field.written (h : Hand) (f : Field) : List Token :=
  h.field f.name ++ f.optionalMark ++ .mark ':' :: .mark ' ' :: f.type.written h ++ [.mark ';']

/-- The tokens of some fields, each with the gap in front of it. -/
def Hand.fields (h : Hand) (fs : List Field) : List Token :=
  fs.flatMap fun f => h.indent ++ f.written h

/-- **The tokens of an interface.** -/
def Interface.written (h : Hand) (i : Interface) : List Token :=
  .word "interface".toList :: .mark ' ' :: h.declared i.name ++ .mark '\x7b' :: h.fields i.fields
    ++ h.close ++ [.mark '\x7d']

/-- The tokens of some interfaces, each with the gap in front of it. -/
def Hand.interfaces (h : Hand) (is : List Interface) : List Token :=
  is.flatMap fun i => h.between ++ i.written h

/-- **The tokens of a definition.** -/
def Definition.written (h : Hand) : Definition → List Token
  | .interfaces root auxiliary => root.written h ++ h.interfaces auxiliary
  | .alias name target =>
    .word "type".toList :: .mark ' ' :: h.declared name ++ .mark '=' :: .mark ' ' :: target.written
      ++ [.mark ';']

@[simp] theorem Hand.fields_nil (h : Hand) : h.fields [] = [] := rfl

@[simp] theorem Hand.fields_cons (h : Hand) (f : Field) (fs : List Field) :
    h.fields (f :: fs) = h.indent ++ f.written h ++ h.fields fs := rfl

@[simp] theorem Hand.interfaces_nil (h : Hand) : h.interfaces [] = [] := rfl

@[simp] theorem Hand.interfaces_cons (h : Hand) (i : Interface) (is : List Interface) :
    h.interfaces (i :: is) = h.between ++ i.written h ++ h.interfaces is := rfl

/-- **The plain hand**: the gaps of a definition's text. Every type name
is written with `lead` in front of it. -/
def Hand.plain (lead : List Token) : Hand where
  indent := [.mark '\n', .mark ' ', .mark ' ']
  close := [.mark '\n']
  between := [.mark '\n', .mark '\n']
  declared n := lead ++ [nameToken n, .mark ' ']
  reference n := lead ++ [nameToken n]
  field n := [nameToken n]

/-- **The tight hand**: every gap is one space. -/
def Hand.tight (lead : List Token) : Hand where
  indent := [.mark ' ']
  close := [.mark ' ']
  between := [.mark ' ']
  declared n := lead ++ [nameToken n, .mark ' ']
  reference n := lead ++ [nameToken n]
  field n := [nameToken n]

/-! ## The characters of what is written -/

namespace Canonical

@[simp] theorem charsOf_nil : charsOf [] = [] := rfl

@[simp] theorem charsOf_cons (t : Token) (ts : List Token) :
    charsOf (t :: ts) = t.chars ++ charsOf ts := rfl

@[simp] theorem charsOf_append (ts us : List Token) :
    charsOf (ts ++ us) = charsOf ts ++ charsOf us := List.flatMap_append

theorem charsOf_flatMap {α : Type} (f : α → List Token) (xs : List α) :
    charsOf (xs.flatMap f) = xs.flatMap fun x => charsOf (f x) := List.flatMap_assoc

end Canonical

/-- Pieces with a separator between them are the first piece, and each
other piece with the separator in front. -/
theorem intercalate_cons {α : Type} (sep x : List α) (xs : List (List α)) :
    List.intercalate sep (x :: xs) = x ++ xs.flatMap fun y => sep ++ y := by
  induction xs generalizing x with
  | nil => simp [List.intercalate]
  | cons y ys ih =>
    have hstep : List.intercalate sep (x :: y :: ys)
        = x ++ (sep ++ List.intercalate sep (y :: ys)) := by
      simp [List.intercalate]
    rw [hstep, ih y, List.flatMap_cons, List.append_assoc]

/-- The characters of an interface: its header, and a line for each
field. -/
theorem Interface.toList_text (i : Interface) :
    i.text.toList = ("interface " ++ i.name ++ " \x7b").toList
      ++ i.fields.flatMap (fun f => '\n' :: f.line.toList) ++ ['\n', '\x7d'] := by
  unfold Interface.text Interface.lines
  rw [String.toList_intercalate, List.map_append, List.map_cons, List.cons_append,
    intercalate_cons]
  simp [List.flatMap_map]

/-- The characters of texts with blank lines between. -/
theorem toList_intercalate_blankLine (text : String) (texts : List String) :
    ("\n\n".intercalate (text :: texts)).toList
      = text.toList ++ texts.flatMap fun t => '\n' :: '\n' :: t.toList := by
  rw [String.toList_intercalate, List.map_cons, intercalate_cons, List.flatMap_map]
  rfl

section Text

variable (lead : List Token)

/-- A type name with the lead of a hand in front of it. -/
def led (n : String) : String := String.ofList (charsOf lead) ++ n

theorem toList_led (n : String) : (led lead n).toList = charsOf lead ++ n.toList := by
  rw [led, String.toList_append, String.toList_ofList]

theorem TypeExpr.charsOf_written (t : TypeExpr) :
    charsOf (t.written (.plain lead)) = (t.rename (led lead)).text.toList := by
  induction t with
  | named n => simp [TypeExpr.written, TypeExpr.rename, TypeExpr.text, Hand.plain, nameToken,
      Token.chars, toList_led]
  | array element ih => simp [TypeExpr.written, TypeExpr.rename, TypeExpr.text, ih, Token.chars]
  | _ => simp [TypeExpr.written, TypeExpr.rename, TypeExpr.text, Token.chars]

theorem Field.charsOf_written (f : Field) :
    charsOf ((Hand.plain lead).indent ++ f.written (.plain lead))
      = '\n' :: (f.rename (led lead)).line.toList := by
  rcases f with ⟨name, type, optional⟩
  cases optional
  · simp [Field.written, Field.optionalMark, Field.line, Field.rename, Hand.plain, nameToken,
      Token.chars, ← TypeExpr.charsOf_written]
  · simp [Field.written, Field.optionalMark, Field.line, Field.rename, Hand.plain, nameToken,
      Token.chars, ← TypeExpr.charsOf_written]

theorem Hand.charsOf_fields (fs : List Field) :
    charsOf ((Hand.plain lead).fields fs)
      = (fs.map (Field.rename (led lead))).flatMap fun f => '\n' :: f.line.toList := by
  unfold Hand.fields
  rw [charsOf_flatMap, List.flatMap_map]
  exact List.flatMap_congr fun f _ => Field.charsOf_written lead f

theorem Interface.charsOf_written (i : Interface) :
    charsOf (i.written (.plain lead)) = (i.rename (led lead)).text.toList := by
  have hfields : charsOf ((Hand.plain lead).fields i.fields)
      = (i.rename (led lead)).fields.flatMap fun f => '\n' :: f.line.toList :=
    Hand.charsOf_fields lead i.fields
  rw [Interface.toList_text, ← hfields]
  simp [Interface.written, Hand.plain, nameToken, Token.chars, Interface.rename, toList_led]

/-- **What is written plainly is the text**, with the lead in front of
every type name. -/
theorem Definition.charsOf_written (d : Definition) :
    charsOf (d.written (.plain lead)) = (d.rename (led lead)).text.toList := by
  cases d with
  | interfaces root auxiliary =>
    have hrest : charsOf ((Hand.plain lead).interfaces auxiliary)
        = (auxiliary.map (Interface.rename (led lead))).flatMap fun i =>
            '\n' :: '\n' :: i.text.toList := by
      unfold Hand.interfaces
      rw [charsOf_flatMap, List.flatMap_map]
      refine List.flatMap_congr fun i _ => ?_
      rw [charsOf_append, Interface.charsOf_written]
      rfl
    rw [Definition.written, charsOf_append, Interface.charsOf_written, hrest, Definition.rename,
      Definition.text, List.map_cons, toList_intercalate_blankLine]
    simp only [List.flatMap_map]
  | «alias» name target =>
    cases target <;>
      simp [Definition.written, Definition.rename, Definition.text, AliasTarget.written,
        AliasTarget.text, Hand.plain, nameToken, Token.chars, toList_led]

/-- Nothing in front of a name leaves it as it is. -/
theorem led_nil : led [] = id := by
  funext n
  rw [led, charsOf_nil, String.ofList_nil, String.empty_append, id_eq]

end Text

end TypedTraffic
