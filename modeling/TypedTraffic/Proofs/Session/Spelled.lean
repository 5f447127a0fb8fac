import TypedTraffic.Proofs.Session.Called

/-!
# How functions are spelled

The words of the method stand in front of the name of a function, so the
name begins with the first letter or digit of the method in lower case
(`Endpoint.exists_functionBase_eq`). What follows are name characters,
whatever the URL is and whatever number tells the name from earlier ones.

Nothing is put in front of a digit. So a function is called by an identifier
exactly if its method has no digit in front of its first letter
(`spelled_run`).
-/

namespace TypedTraffic

open Naming Text

/-! ## The first character -/

namespace Endpoint

/-- **The initial of a function**: the first letter or digit of its method
in lower case, and that of `call` if there is none. -/
def initial (method : String) : Char :=
  ((lower method).toList.find? isAlphanumeric).getD 'c'

/-- **The name a function asks for** is its initial with name characters
behind it. -/
theorem exists_functionBase_eq (method : String) (u : Url) :
    ∃ rest, (functionBase method u).toList = initial method :: rest
      ∧ ∀ c ∈ initial method :: rest, isNameChar c = true := by
  have hmethod : IsTrimmed (joinedWords "call" (lower method)).toList :=
    isTrimmed_joinedWords (isTrimmed_word (by decide) (by decide)) _
  have hbase : (functionBase method u).toList
      = (joinedWords "call" (lower method)).toList ++ '_' :: (placeName u).toList := by
    rw [functionBase_eq, String.toList_append, String.toList_append, List.append_assoc]
    rfl
  have htrimmed := hmethod.append (isPlaceName_placeName u).trimmed
  have hhead : (functionBase method u).toList.head? = some (initial method) := by
    rw [hbase, List.head?_append_of_ne_nil _ hmethod.nonempty, head?_joinedWords, initial]
    cases (lower method).toList.find? isAlphanumeric <;> rfl
  obtain ⟨rest, hrest⟩ := List.head?_eq_some_iff.mp hhead
  refine ⟨rest, hrest, fun c hc => htrimmed.chars c ?_⟩
  rw [← hbase, hrest]
  exact hc

end Endpoint

/-- A name of the series of a name keeps its first character, and has name
characters behind it. -/
theorem IsNextName.exists_eq_cons {base name : String} {earlier : List String}
    (h : IsNextName base name earlier) {c : Char} {cs : List Char} (hbase : base.toList = c :: cs)
    (hall : ∀ d ∈ c :: cs, isNameChar d = true) :
    ∃ rest, name.toList = c :: rest ∧ ∀ d ∈ c :: rest, isNameChar d = true := by
  rcases h with ⟨-, rfl⟩ | ⟨-, k, -, rfl, -, -⟩
  · exact ⟨cs, hbase, hall⟩
  · refine ⟨cs ++ '_' :: Nat.toDigits 10 k, ?_, fun d hd => ?_⟩
    · rw [String.toList_append, String.toList_append, hbase, toList_toString, List.append_assoc]
      rfl
    · rw [← List.cons_append, List.mem_append] at hd
      rcases hd with hd | hd
      · exact hall d hd
      · rcases List.mem_cons.mp hd with rfl | hd
        · decide
        · exact isNameChar_of_isDigit (Nat.isDigit_of_mem_toDigits (by decide) (by decide) hd)

/-! ## The functions of a run -/

/-- **A binding whose function is spelled after its method.** -/
structure Binding.Spelled (b : Binding) : Prop where
  /-- The name begins with the initial that the method gives. -/
  head : b.functionName.toList.head? = some (Endpoint.initial b.method)
  /-- It has name characters only. -/
  chars : ∀ c ∈ b.functionName.toList, isNameChar c = true
  /-- It is an identifier unless the initial is a digit. -/
  isIdentifier_iff :
    isIdentifier b.functionName = true ↔ (Endpoint.initial b.method).isDigit = false

/-- A function with the next name of the series that its method and a URL
ask for is spelled after its method. -/
theorem Binding.spelled_of_isNextName {b : Binding} {u : Url} {earlier : List String}
    (h : IsNextName (Endpoint.functionBase b.method u) b.functionName earlier) : b.Spelled := by
  obtain ⟨cs, hbase, hall⟩ := Endpoint.exists_functionBase_eq b.method u
  obtain ⟨rest, hname, hchars⟩ := h.exists_eq_cons hbase hall
  refine ⟨by rw [hname, List.head?_cons], by rw [hname]; exact hchars, ?_⟩
  rw [Naming.isIdentifier_iff, hname]
  constructor
  · rintro ⟨⟨c, tail, heq, hdigit⟩, -⟩
    rw [(List.cons.inj heq).1]
    exact hdigit
  · exact fun hdigit => ⟨⟨_, rest, rfl, hdigit⟩, hchars⟩

/-- **Binding groups** whose keys are new gives every function the next name
of its series. -/
theorem Session.exists_isNextName_of_bindAll {standIns : Text.StandIns} {s t : Session}
    {gs : List EndpointGroup} {bs : List Binding} (h : s.bindAll standIns gs = .ok (bs, t))
    (hgroups : WellGrouped gs)
    (hnew : ∀ g ∈ gs, s.functionNames.find? g.key = none) {b : Binding} (hb : b ∈ bs) :
    ∃ u earlier, IsNextName (Endpoint.functionBase b.method u) b.functionName earlier := by
  obtain ⟨before, g, behind, rfl, bs₀, s₀, s₁, hbefore, hbind⟩ := exists_split_of_mem_bindAll h hb
  obtain ⟨hfront, hkeys⟩ := hgroups.append
  have hmem : g ∈ before ++ g :: behind := List.mem_append_right _ List.mem_cons_self
  -- the groups in front have other keys, so the key is still new
  obtain ⟨-, hothers, -, -⟩ := functionNames_bindAll hbefore hfront fun p hp =>
    hnew p (List.mem_append_left _ hp)
  obtain ⟨first, rest, u, -, -, hat, hname, -⟩ := exists_assign_of_bind hbind
    (hgroups.nonempty g hmem) (hgroups.readable g hmem)
  refine ⟨u, s₀.functionNames.taken, ?_⟩
  rw [hat.method, hname]
  exact isNextName_assign ((hothers g.key hkeys).trans (hnew g hmem)) _ fun _ => Iff.rfl

/-- **How the functions of a run are spelled.** A run, from whatever session
it starts, calls each function by name characters, the first of which is
that of its method. So the name is an identifier exactly if the first letter
or digit of the method is no digit. -/
theorem spelled_run (s : Session) (capture : Capture) :
    ∃ sdk final, s.run capture = .ok (sdk, final) ∧ ∀ b ∈ sdk.bindings, b.Spelled := by
  obtain ⟨sdk, final, hrun, hbindAll, -⟩ := s.exists_run_eq capture
  refine ⟨sdk, final, hrun, fun b hb => ?_⟩
  obtain ⟨u, earlier, hnext⟩ := Session.exists_isNextName_of_bindAll hbindAll
    (wellGrouped_groupExchanges capture.exchanges) (fun _ _ => rfl) hb
  exact Binding.spelled_of_isNextName hnext

/-- A capture of one request, whose method begins with a digit. -/
def numberedMethod : Capture :=
  ⟨none, [⟨⟨"2GET", "https://h.io/a", [], none⟩, Response.default⟩]⟩

/-- **A method may break the name of its function**: the name begins with
the digit that the method begins with. -/
theorem not_isIdentifier_numberedMethod : ¬ ∀ (options : Options) (capture : Capture),
    ∃ sdk s, generate options capture = .ok (sdk, s)
      ∧ ∀ b ∈ sdk.bindings, isIdentifier b.functionName = true := by
  intro h
  obtain ⟨sdk, s, hrun, hall⟩ := h Options.default numberedMethod
  have hnames : (generate Options.default numberedMethod).map
      (fun p => p.1.bindings.all fun b => isIdentifier b.functionName) = .ok false := by
    decide +kernel
  rw [hrun] at hnames
  have hbroken : (sdk.bindings.all fun b => isIdentifier b.functionName) = false :=
    Except.ok.inj hnames
  exact absurd (List.all_eq_true.mpr hall) (by rw [hbroken]; decide)

end TypedTraffic
