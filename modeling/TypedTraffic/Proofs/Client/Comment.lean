import TypedTraffic.Client.Function
import TypedTraffic.Proofs.Endpoint.Meeting
import TypedTraffic.Proofs.Session.Placed
import TypedTraffic.Proofs.Text.Casing

/-!
# The comment of a function

A function starts with a comment of three lines: an opening, the method
and the path, and an end. The path is written so that it never ends the
comment (`not_endsComment_commentChars`); the method is written as it is.
So the third line ends the comment exactly if the method of the first
request of the endpoint does not (`commented_generate`), and there are
methods that do (`not_closed_injected`).

Upper case neither makes nor removes the end of a comment
(`endsComment_upper_iff`): no other character becomes an asterisk or a
slash, and none vanishes.
-/

namespace TypedTraffic.Client

open Text

/-- **Texts that end a comment**: an asterisk and a slash behind it stand
somewhere in them. -/
def EndsComment (cs : List Char) : Prop := ['*', '/'] <:+: cs

instance (cs : List Char) : Decidable (EndsComment cs) :=
  inferInstanceAs (Decidable (['*', '/'] <:+: cs))

/-- **The text behind a comment**, from what stands behind its opening. -/
def behindComment : List Char → Option (List Char)
  | '*' :: '/' :: cs => some cs
  | _ :: cs => behindComment cs
  | [] => none

/-! ## Ends of comments -/

theorem not_endsComment_nil : ¬ EndsComment [] := by
  intro h
  exact absurd (List.eq_nil_of_infix_nil h) (List.cons_ne_nil _ _)

theorem endsComment_cons {c : Char} {cs : List Char} :
    EndsComment (c :: cs) ↔ c = '*' ∧ cs.head? = some '/' ∨ EndsComment cs := by
  rw [EndsComment, List.infix_cons_iff, List.cons_prefix_cons, eq_comm (b := c),
    List.singleton_prefix_iff_head?_eq_some]
  rfl

/-- What has no asterisk has no part in the end of a comment behind it. -/
theorem endsComment_append_of_notMem {cs ds : List Char} (h : '*' ∉ cs) :
    EndsComment (cs ++ ds) ↔ EndsComment ds := by
  induction cs with
  | nil => rfl
  | cons c cs ih =>
    rw [List.mem_cons, not_or] at h
    rw [List.cons_append, endsComment_cons, ih h.2]
    exact or_iff_right fun hc => h.1 hc.1.symm

/-- A character that has no part in the end of a comment parts the ends. -/
theorem endsComment_append_cons {c : Char} (hc : c ≠ '*' ∧ c ≠ '/') (cs ds : List Char) :
    EndsComment (cs ++ c :: ds) ↔ EndsComment cs ∨ EndsComment ds := by
  induction cs with
  | nil =>
    rw [List.nil_append, endsComment_cons, or_iff_right fun h => hc.1 h.1,
      or_iff_right not_endsComment_nil]
  | cons d cs ih =>
    have hhead : (cs ++ c :: ds).head? = some '/' ↔ cs.head? = some '/' := by
      cases cs with
      | nil => simpa using hc.2
      | cons d cs => rfl
    rw [List.cons_append, endsComment_cons, endsComment_cons, ih, hhead, or_assoc]

theorem behindComment_cons {c : Char} {cs : List Char} (h : ¬ (c = '*' ∧ cs.head? = some '/')) :
    behindComment (c :: cs) = behindComment cs := by
  rw [behindComment]
  rintro ds rfl rfl
  exact h ⟨rfl, rfl⟩

/-- **What ends a comment ends it** whatever stands behind. -/
theorem exists_behindComment {cs : List Char} (h : EndsComment cs) (ds : List Char) :
    ∃ tail, behindComment (cs ++ ds) = some (tail ++ ds) := by
  induction cs with
  | nil => exact absurd h not_endsComment_nil
  | cons c cs ih =>
    by_cases hend : c = '*' ∧ cs.head? = some '/'
    · obtain ⟨rfl, hslash⟩ := hend
      obtain ⟨tail, rfl⟩ := List.head?_eq_some_iff.mp hslash
      exact ⟨tail, rfl⟩
    · have hcs : EndsComment cs := (endsComment_cons.mp h).resolve_left hend
      obtain ⟨d, cs, rfl⟩ := List.exists_cons_of_ne_nil (l := cs) fun hnil =>
        not_endsComment_nil (hnil ▸ hcs)
      obtain ⟨tail, htail⟩ := ih hcs
      refine ⟨tail, (behindComment_cons ?_).trans htail⟩
      exact hend

/-- **What does not end a comment** leaves it to the end behind. -/
theorem behindComment_append {cs : List Char} (h : ¬ EndsComment cs) (tail : List Char) :
    behindComment (cs ++ '*' :: '/' :: tail) = some tail := by
  induction cs with
  | nil => rfl
  | cons c cs ih =>
    rw [endsComment_cons, not_or] at h
    refine (behindComment_cons fun hend => ?_).trans (ih h.2)
    cases cs with
    | nil => cases hend.2
    | cons d cs => exact h.1 hend

/-- **A comment ends where it should** exactly if its text does not end
it. -/
theorem behindComment_append_iff (cs tail : List Char) :
    behindComment (cs ++ '*' :: '/' :: tail) = some tail ↔ ¬ EndsComment cs := by
  refine ⟨fun h hends => ?_, fun h => behindComment_append h tail⟩
  obtain ⟨more, hmore⟩ := exists_behindComment hends ('*' :: '/' :: tail)
  have hlength := congrArg List.length (Option.some.inj (hmore.symm.trans h))
  simp only [List.length_append, List.length_cons] at hlength
  omega

/-! ## Paths and methods -/

/-- Escaping keeps the first character. -/
theorem head?_commentChars (cs : List Char) : (commentChars cs).head? = cs.head? := by
  fun_cases commentChars cs <;> rfl

/-- **No path ends a comment.** -/
theorem not_endsComment_commentChars (cs : List Char) : ¬ EndsComment (commentChars cs) := by
  induction cs using commentChars.induct with
  | case1 cs ih =>
    rw [commentChars, endsComment_cons, endsComment_cons, endsComment_cons, endsComment_cons]
    simpa using ih
  | case2 c cs hend ih =>
    rw [commentChars.eq_2 _ _ hend, endsComment_cons, head?_commentChars, not_or]
    refine ⟨?_, ih⟩
    rintro ⟨rfl, hslash⟩
    obtain ⟨tail, rfl⟩ := List.head?_eq_some_iff.mp hslash
    exact hend tail rfl rfl
  | case3 => exact not_endsComment_nil

/-- The sequences of upper case are of letters and what is above them. -/
theorem upperSequences_images :
    ∀ p ∈ Table.upperSequences, p.2 ≠ [] ∧ ∀ n ∈ p.2, 65 ≤ n := by
  decide +kernel

theorem upperSequences_of_lookup {k : Nat} {image : List Nat}
    (h : Table.upperSequences.lookup k = some image) : image ≠ [] ∧ ∀ n ∈ image, 65 ≤ n := by
  obtain ⟨before, behind, heq, -⟩ := List.lookup_eq_some_iff.mp h
  have hmem : (k, image) ∈ Table.upperSequences := by
    rw [heq]
    exact List.mem_append_right _ List.mem_cons_self
  exact upperSequences_images _ hmem

/-- The runs of upper case lead to letters and what is above them. -/
theorem upperRuns_images : ∀ r ∈ Table.upperRuns, 65 ≤ (r.1 : Int) + r.2.2.2 := by
  decide +kernel

theorem le_of_shifted {runs : List (Nat × Nat × Nat × Int)}
    (h : ∀ r ∈ runs, 65 ≤ (r.1 : Int) + r.2.2.2) {n m : Nat} (hm : shifted runs n = some m) :
    65 ≤ m := by
  obtain ⟨r, hr, hfirst, -, himage⟩ := exists_run_of_shifted hm
  have hleast := h r hr
  omega

/-- A character made from a number below which no letter is is no mark. -/
theorem ofNat_ne {n : Nat} {m : Char} (hn : 65 ≤ n) (hm : 0 < m.toNat ∧ m.toNat < 65) :
    Char.ofNat n ≠ m := by
  rintro rfl
  have hnat := toNat_ofNat_cases n
  omega

/-- **No mark comes from upper case** but from itself: what stands below
the letters is mapped to itself, and nothing else is mapped to it. -/
theorem eq_of_mem_upperChar {c m : Char} (hm : 0 < m.toNat ∧ m.toNat < 65)
    (h : m ∈ upperChar c) : c = m := by
  unfold upperChar at h
  split at h
  · rw [List.mem_singleton] at h
    have hnat := Naming.toNat_toUpper c
    rw [← h] at hnat
    split at hnat
    · rename_i hlower
      have hrange := Naming.isLower_iff.mp hlower
      omega
    · exact (Char.toNat_inj.mp hnat).symm
  · unfold mapped at h
    split at h
    · rename_i image himage
      obtain ⟨n, hn, rfl⟩ := List.mem_map.mp h
      have hsequence := (upperSequences_of_lookup himage).2 n hn
      exact absurd rfl (ofNat_ne hsequence hm)
    · split at h
      · rename_i n hshifted
        rw [List.mem_singleton] at h
        exact absurd h.symm (ofNat_ne (le_of_shifted upperRuns_images hshifted) hm)
      · exact (List.mem_singleton.mp h).symm

/-- No character vanishes in upper case. -/
theorem upperChar_ne_nil (c : Char) : upperChar c ≠ [] := by
  unfold upperChar mapped
  split
  · exact List.cons_ne_nil _ _
  · split
    · rename_i image himage
      rw [ne_eq, List.map_eq_nil_iff]
      exact (upperSequences_of_lookup himage).1
    · split <;> exact List.cons_ne_nil _ _

/-- Upper case keeps a slash in front, and puts none there. -/
theorem head?_flatMap_upperChar (cs : List Char) :
    (cs.flatMap upperChar).head? = some '/' ↔ cs.head? = some '/' := by
  cases cs with
  | nil => rfl
  | cons c cs =>
    obtain ⟨d, ds, hupper⟩ := List.exists_cons_of_ne_nil (upperChar_ne_nil c)
    rw [List.flatMap_cons, hupper, List.cons_append, List.head?_cons, List.head?_cons,
      Option.some_inj, Option.some_inj]
    constructor
    · rintro rfl
      exact eq_of_mem_upperChar (by decide) (hupper ▸ List.mem_cons_self)
    · rintro rfl
      exact (List.cons.inj hupper).1.symm

/-- **Upper case keeps the ends of comments**, and makes none. -/
theorem endsComment_upper_iff (s : String) :
    EndsComment (upper s).toList ↔ EndsComment s.toList := by
  rw [upper, String.toList_ofList]
  induction s.toList with
  | nil => rfl
  | cons c cs ih =>
    rw [List.flatMap_cons, endsComment_cons, ← ih]
    by_cases hc : c = '*'
    · subst hc
      have hself : upperChar '*' = ['*'] := rfl
      rw [hself, List.singleton_append, endsComment_cons, head?_flatMap_upperChar]
    · rw [or_iff_right fun h => hc h.1]
      exact endsComment_append_of_notMem fun h => hc (eq_of_mem_upperChar (by decide) h)

/-! ## The comment of a binding -/

/-- The text of a function. -/
def functionText (b : Binding) : String := "\n".intercalate (functionLines b)

/-- The line between the first and the last of the comment of a function. -/
def commentLine (b : Binding) : String := " * " ++ b.method ++ " " ++ commentText b.path

/-- What stands between the opening and the end of the comment of a
function. -/
def commentBody (b : Binding) : String := "*\n" ++ commentLine b ++ "\n "

/-- **A function behind its comment**, for a request with the method as
written. -/
structure Commented (b : Binding) (written : String) : Prop where
  /-- The method of the binding is that of the request in upper case. -/
  method : b.method = upper written
  /-- The second line names method and path. -/
  line : (functionLines b)[1]? = some (commentLine b)
  /-- It ends the comment exactly if the method of the request does. -/
  ends : EndsComment (commentLine b).toList ↔ EndsComment written.toList
  /-- The third line ends the comment that the first line opens, exactly if
  the method of the request does not. -/
  closed : ∃ code, functionText b = "/*" ++ commentBody b ++ "*/" ++ code
    ∧ (behindComment (commentBody b ++ "*/" ++ code).toList = some code.toList
      ↔ ¬ EndsComment written.toList)

/-- **The line of a comment** ends it exactly if the method does. -/
theorem endsComment_commentLine (b : Binding) :
    EndsComment (commentLine b).toList ↔ EndsComment b.method.toList := by
  have hline : (commentLine b).toList
      = ' ' :: '*' :: ' ' :: (b.method.toList ++ ' ' :: commentChars b.path.toList) := by
    simp [commentLine, commentText]
  rw [hline, endsComment_cons, endsComment_cons, endsComment_cons,
    endsComment_append_cons (by decide), or_iff_left (not_endsComment_commentChars _)]
  simp

/-- What stands around the line of a comment has no part in its end. -/
theorem endsComment_commentBody (b : Binding) :
    EndsComment (commentBody b).toList ↔ EndsComment b.method.toList := by
  have hbody : (commentBody b).toList = '*' :: '\n' :: ((commentLine b).toList ++ ['\n', ' ']) := by
    simp [commentBody]
  have hend : ¬ EndsComment [' '] := by
    rw [endsComment_cons, or_iff_left not_endsComment_nil]
    decide
  rw [hbody, endsComment_cons, endsComment_cons, endsComment_append_cons (by decide),
    or_iff_left hend, endsComment_commentLine]
  simp

/-- A function starts with its comment. -/
theorem exists_functionText_eq (b : Binding) :
    ∃ code, functionText b = "/*" ++ commentBody b ++ "*/" ++ code := by
  obtain ⟨line, more, hlines⟩ : ∃ line more,
      functionLines b = "/**" :: commentLine b :: " */" :: line :: more := ⟨_, _, rfl⟩
  refine ⟨"\n" ++ "\n".intercalate (line :: more), ?_⟩
  rw [functionText, hlines, String.intercalate_cons_cons, String.intercalate_cons_cons,
    String.intercalate_cons_cons, commentBody]
  apply String.toList_inj.mp
  simp

/-- **A binding of a method** is a function behind its comment. -/
theorem commented_of_method {b : Binding} {written : String} (h : b.method = upper written) :
    Commented b written := by
  have hmethod : EndsComment b.method.toList ↔ EndsComment written.toList := by
    rw [h, endsComment_upper_iff]
  obtain ⟨code, hcode⟩ := exists_functionText_eq b
  refine ⟨h, rfl, (endsComment_commentLine b).trans hmethod, code, hcode, ?_⟩
  have hends := behindComment_append_iff (commentBody b).toList code.toList
  rw [endsComment_commentBody, hmethod] at hends
  simpa using hends

end TypedTraffic.Client

namespace TypedTraffic

open Client

/-- **The comments of a run**: every function of a run over a capture
stands behind its comment, for the method of the first request of its
endpoint. -/
theorem commented_generate (options : Options) (capture : Capture) :
    ∃ sdk s, generate options capture = .ok (sdk, s)
      ∧ ∀ b ∈ sdk.bindings, ∃ g ∈ groupExchanges capture.exchanges, ∃ first rest,
        g.exchanges = first :: rest ∧ Commented b first.request.method := by
  obtain ⟨sdk, s, hrun, hbind, -⟩ := (Session.start options).exists_run_eq capture
  refine ⟨sdk, s, hrun, fun b hb => ?_⟩
  obtain ⟨g, hg, s₀, s₁, hbound⟩ := Session.exists_bind_of_mem_bindAll hbind hb
  obtain ⟨first, rest, hfirst, hendpoint⟩ := exists_first_of_mem_groupExchanges hg
  obtain ⟨u, hu⟩ := (wellGrouped_groupExchanges _).readable g hg first
    (by rw [hfirst]; exact List.mem_cons_self)
  obtain ⟨hat, -⟩ := Session.isAt_of_bind hbound hfirst hu
  refine ⟨g, hg, first, rest, hfirst, commented_of_method ?_⟩
  obtain ⟨v, -, hmethod⟩ := Option.map_eq_some_iff.mp hendpoint
  rw [hat.method]
  exact (Prod.mk.inj hmethod).1.symm

/-- A capture of one request, whose method ends a comment. -/
def injected : Capture :=
  ⟨none, [⟨⟨"*/evil()/*", "https://h.io/a", [], none⟩, Response.default⟩]⟩

/-- **A comment can end within its second line**: a method is any text, and
is written as it is. -/
theorem not_closed_injected :
    ¬ ∀ (options : Options) (capture : Capture) (sdk : Session.Sdk) (s : Session),
      generate options capture = .ok (sdk, s) →
        ∀ b ∈ sdk.bindings, ¬ EndsComment (commentLine b).toList := by
  intro h
  obtain ⟨sdk, s, hrun, -⟩ := (Session.start Options.default).exists_run_eq injected
  have hgenerate : (generate Options.default injected).map
      (fun p => p.1.bindings.map commentLine) = .ok [" * */EVIL()/* /a"] := by
    decide +kernel
  rw [generate, hrun] at hgenerate
  have hline : sdk.bindings.map commentLine = [" * */EVIL()/* /a"] := Except.ok.inj hgenerate
  have hmem : " * */EVIL()/* /a" ∈ sdk.bindings.map commentLine := hline ▸ List.mem_cons_self
  obtain ⟨b, hb, heq⟩ := List.mem_map.mp hmem
  have hnot := h Options.default injected sdk s hrun b hb
  rw [heq] at hnot
  exact absurd (by decide +kernel) hnot

end TypedTraffic
