import TypedTraffic.Proofs.Declaration.Exported
import TypedTraffic.Proofs.Sample.Reading

/-!
# Definitions in a module

A definition is made of a sample or of query parameters, under a name that
may be any identifier. Its text declares the names of its headers or of
its alias, its own name first, and a module holds it with `export` in front
of these declarations and with nothing else changed
(`declared_and_exported`).

What stands in a module in front of a definition and behind it does not
depend on the definition (`moduleText_append_cons`): the line ends that are
dropped at the end of a module never reach into a definition.
-/

namespace TypedTraffic

open Naming Text Canonical

namespace Client

/-! ## A definition among others -/

/-- The lines of a module behind a definition. -/
def laterLines (later : List String) (bindings : List Binding) : List String :=
  later.flatMap (fun definition => [exported definition, ""])
    ++ bindings.flatMap fun b => functionLines b ++ [""]

/-- **The text of a module in front of a definition.** -/
def moduleFront (stamp : String) (earlier : List String) : String :=
  "\n".intercalate (moduleLines stamp earlier []) ++ "\n"

/-- **The text of a module behind a definition.** -/
def moduleBack (later : List String) (bindings : List Binding) : String :=
  String.ofList (dropEndWhile (· == '\n')
    ('\n' :: (laterLines later bindings).flatMap fun line => '\n' :: line.toList) ++ ['\n'])

theorem moduleLines_append_cons (stamp : String) (earlier : List String) (definition : String)
    (later : List String) (bindings : List Binding) :
    moduleLines stamp (earlier ++ definition :: later) bindings
      = moduleLines stamp earlier [] ++ exported definition :: "" :: laterLines later bindings := by
  simp [moduleLines, laterLines]

theorem dropEndWhile_append {p : Char → Bool} {c : Char} (hc : p c = false) (xs ys : List Char) :
    dropEndWhile p (xs ++ [c] ++ ys) = xs ++ [c] ++ dropEndWhile p ys := by
  unfold dropEndWhile
  rw [List.reverse_append, List.dropWhile_append]
  split
  · rename_i hnone
    rw [List.isEmpty_iff.mp hnone]
    simp [hc]
  · simp

/-- **A definition in a module**: what stands in front of it and behind it
has nothing to do with it. -/
theorem moduleText_append_cons (stamp : String) (earlier : List String) {definition : String}
    {body : List Char} {c : Char} (hend : (exported definition).toList = body ++ [c])
    (hc : c ≠ '\n') (later : List String) (bindings : List Binding) :
    moduleText stamp (earlier ++ definition :: later) bindings
      = moduleFront stamp earlier ++ exported definition ++ moduleBack later bindings := by
  obtain ⟨first, rest, hfront⟩ : ∃ first rest, moduleLines stamp earlier [] = first :: rest :=
    ⟨_, _, rfl⟩
  have hchars :
      ("\n".intercalate (moduleLines stamp (earlier ++ definition :: later) bindings)).toList
      = (moduleFront stamp earlier).toList ++ (exported definition).toList
        ++ '\n' :: (laterLines later bindings).flatMap fun line => '\n' :: line.toList := by
    rw [moduleLines_append_cons, moduleFront, hfront, List.cons_append, String.toList_append,
      String.toList_intercalate, String.toList_intercalate, List.map_cons, List.map_cons,
      intercalate_cons, intercalate_cons]
    simp [List.flatMap_map]
  rw [moduleText, hchars, hend, ← List.append_assoc, dropEndWhile_append (by simpa using hc)]
  refine String.toList_inj.mp ?_
  simp [moduleBack, hend]

end Client

open Client

/-- An interface ends in a brace. -/
theorem Interface.exists_toList_text_eq (i : Interface) :
    ∃ body, i.text.toList = body ++ ['\x7d'] := by
  rw [Interface.toList_text]
  exact ⟨_, List.append_assoc _ ['\n'] ['\x7d'] |>.symm⟩

/-- No line end is the last character of a definition. -/
theorem Definition.exists_exportedText_eq (d : Definition) :
    ∃ body c, d.exportedText.toList = body ++ [c] ∧ c ≠ '\n' := by
  cases d with
  | interfaces root auxiliary =>
    rw [exportedText, declarationTexts, List.map_cons, List.map_cons, toList_intercalate_blankLine]
    rcases List.eq_nil_or_concat auxiliary with rfl | ⟨init, i, rfl⟩
    · obtain ⟨body, hbody⟩ := root.exists_toList_text_eq
      exact ⟨"export ".toList ++ body, '\x7d', by simp [hbody], by decide⟩
    · obtain ⟨body, hbody⟩ := i.exists_toList_text_eq
      have hlast : (("export " ++ i.text).toList) = "export ".toList ++ body ++ ['\x7d'] := by
        rw [String.toList_append, hbody, List.append_assoc]
      refine ⟨("export " ++ root.text).toList
          ++ ((init.map Interface.text).map ("export " ++ ·)).flatMap
              (fun t => '\n' :: '\n' :: t.toList)
          ++ '\n' :: '\n' :: ("export ".toList ++ body), '\x7d', ?_, by decide⟩
      simp only [List.concat_eq_append, List.map_append, List.flatMap_append, List.map_cons,
        List.map_nil, List.flatMap_cons, List.flatMap_nil, List.append_nil, hlast,
        List.append_assoc, List.cons_append]
  | «alias» name target =>
    refine ⟨("export type " ++ name ++ " = " ++ target.text).toList, ';', ?_, by decide⟩
    rw [exportedText, declarationTexts, Definition.text]
    simp

/-! ## Definitions of samples and of query parameters -/

/-- **A definition that is made under a name**, in the given names of
fields. -/
inductive MadeUnder (root : String) (names : FieldNames) : Definition → Prop
  /-- It is made of a sample. -/
  | sample (payload : Payload) (mime : Option String) :
    MadeUnder root names (Sample.infer root payload mime names).definition
  /-- It is made of query parameters. -/
  | parameters (keys : List String) :
    MadeUnder root names (.interfaces ⟨root, (Session.paramFields names keys).1⟩ [])

/-- **What is made under a name** is rooted in it. -/
theorem MadeUnder.rooted {root : String} {names : FieldNames} {d : Definition}
    (h : MadeUnder root names d) (hnames : names.Reachable) : d.Rooted root := by
  have hreading : ∀ reading : Reading,
      (reading.definition root (names.nameFields reading.keys).fieldName).Rooted root :=
    fun reading =>
      Reading.rooted_definition (hnames.nameFields _).isIdentifier_fieldName root reading
  cases h with
  | sample payload mime =>
    have hreads := Sample.reads_infer root names payload mime
    rw [hreads.definition, hreads.names]
    exact hreading _
  | parameters keys =>
    rw [Session.paramFields_eq]
    exact hreading (.query keys)

/-- **Reading and emitting agree on what is a declaration.** The text of a
definition declares exactly the names of its interfaces or of its alias, in
order and the root first, and a module holds it with `export` in front of
these declarations and nothing else changed. -/
theorem declared_and_exported {root : String} (hroot : isIdentifier root = true)
    {names : FieldNames} (hnames : names.Reachable) {d : Definition} (h : MadeUnder root names d) :
    d.names.head? = some root
      ∧ headers d.text = d.names
      ∧ declaredNames d.text = d.names
      ∧ d.text = "\n\n".intercalate d.declarationTexts
      ∧ ∀ stamp earlier later bindings,
          moduleText stamp (earlier ++ d.text :: later) bindings
            = moduleFront stamp earlier ++ d.exportedText ++ moduleBack later bindings := by
  have hrooted := h.rooted hnames
  have hspelled := hrooted.spelled hroot
  refine ⟨?_, hspelled.headers_text, hspelled.declaredNames_text, d.text_eq_intercalate,
    fun stamp earlier later bindings => ?_⟩
  · rw [Definition.names_eq_cons, hrooted.name, List.head?_cons]
  · obtain ⟨body, c, hend, hc⟩ := d.exists_exportedText_eq
    have hexported := hspelled.exported_text
    rw [← hexported] at hend ⊢
    exact moduleText_append_cons stamp earlier hend hc later bindings

/-- A sample whose keys are keywords. -/
def keywordSample : Payload :=
  .value (.object [(codePoints "type", .object [(codePoints "interface", .null)]),
    (codePoints "type_x", .number (.whole 1))])

/-- The definition of a sample whose keys are keywords, with something in
front of each header. -/
def keywordText (front : String) : String :=
  front ++ "interface type \x7b\n  type: typeType;\n  type_x: number;\n\x7d\n\n"
    ++ front ++ "interface typeType \x7b\n  interface: any;\n\x7d"

/-- A sample whose keys are keywords declares its interfaces and nothing
else, under a name that is a keyword itself. -/
theorem declared_and_exported_keywords :
    isIdentifier "type" = true
      ∧ (Sample.infer "type" keywordSample none Table.empty).definition.text = keywordText ""
      ∧ declaredNames (keywordText "") = ["type", "typeType"]
      ∧ moduleText "now" [keywordText ""] []
        = moduleFront "now" [] ++ keywordText "export " ++ moduleBack [] [] := by
  have hroot : isIdentifier "type" = true := by decide
  obtain ⟨-, -, hdeclared, -, hmodule⟩ := declared_and_exported hroot .empty
    (MadeUnder.sample keywordSample none)
  have htext : (Sample.infer "type" keywordSample none Table.empty).definition.text
      = keywordText "" := by
    decide +kernel
  have hnames : (Sample.infer "type" keywordSample none Table.empty).definition.names
      = ["type", "typeType"] := by
    decide +kernel
  have hexported : (Sample.infer "type" keywordSample none Table.empty).definition.exportedText
      = keywordText "export " := by
    decide +kernel
  rw [htext, hnames] at hdeclared
  have hlater := hmodule "now" [] [] []
  rw [htext, hexported] at hlater
  exact ⟨hroot, htext, hdeclared, hlater⟩

end TypedTraffic
