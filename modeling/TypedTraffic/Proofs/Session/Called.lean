import TypedTraffic.Proofs.Naming.Joined
import TypedTraffic.Proofs.Session.Placed

/-!
# How functions are called

The function of an endpoint asks for a name made of the method and of the
words of host and path. Many URLs ask for one name: everything but letters
and digits is lost, and so is what lies beyond the limit. What is left of
host and path is never nothing (`Endpoint.isPlaceName_placeName`).

The names are given by a table under the keys of the endpoints. No two
groups have one key, so each binding of a run finds its key new in the
table and receives the first name of its series that no earlier function
has (`Session.functionNames_bindAll`). So no two functions share a name
(`called_run`).
-/

namespace TypedTraffic

open Naming

/-! ## The name a function asks for -/

namespace Endpoint

/-- **The words of host and path** in the name of a function. -/
def placeName (u : Url) : String :=
  String.ofList (Text.dropEndWhile (· == '_')
    ((joinedWords "root" (u.authority ++ u.path)).toList.take nameLimit))

/-- A function asks for the words of its method, and behind them those of
its host and path. -/
theorem functionBase_eq (method : String) (u : Url) :
    functionBase method u
      = joinedWords "call" (Text.lower method) ++ "_" ++ placeName u := rfl

/-- **Words of host and path as a name has them.** -/
structure IsPlaceName (s : String) : Prop where
  /-- They are name characters with no underscore at either end. -/
  trimmed : IsTrimmed s.toList
  /-- They keep within the limit. -/
  short : s.length ≤ 80

/-- **Something is left of every host and path.** -/
theorem isPlaceName_placeName (u : Url) : IsPlaceName (placeName u) := by
  have hroot : IsTrimmed "root".toList := isTrimmed_word (by decide) (by decide)
  refine ⟨?_, ?_⟩
  · rw [placeName, String.toList_ofList]
    exact (isTrimmed_joinedWords hroot _).cut (by decide)
  · rw [placeName, String.length_ofList]
    exact (List.rdropWhile_prefix (· == '_') _).length_le.trans (List.length_take_le _ _)

end Endpoint

/-! ## The names of a run -/

/-- **The next name of a series**, where earlier names are taken: the base
if it is free, else the base with the least positive number that makes it
free. -/
def IsNextName (base name : String) (earlier : List String) : Prop :=
  base ∉ earlier ∧ name = base
    ∨ base ∈ earlier ∧ ∃ k, 0 < k ∧ name = base ++ "_" ++ toString k ∧ name ∉ earlier
      ∧ ∀ j, 0 < j → j < k → base ++ "_" ++ toString j ∈ earlier

/-- A source name that is new receives the next name of its series. -/
theorem isNextName_assign {t : Table String} {source : String} (h : t.find? source = none)
    (base : String) {earlier : List String} (hearlier : ∀ name, name ∈ earlier ↔ name ∈ t.taken) :
    IsNextName base (t.assign source base).1 earlier := by
  rw [(Table.assign_of_find?_eq_none h base).1]
  simp only [IsNextName, hearlier]
  rcases firstFree_cases "_" t.taken base with ⟨hfree, heq⟩ | ⟨htaken, k, hk, heq, hfree, hleast⟩
  · exact Or.inl ⟨hfree, heq⟩
  · exact Or.inr ⟨htaken, k, hk, heq, heq ▸ hfree, hleast⟩

/-- **A binding whose function is called after its endpoint**, where earlier
functions have the given names. -/
structure Binding.CalledAfter (b : Binding) (g : EndpointGroup) (u : Url)
    (earlier : List String) : Prop where
  /-- The name is the next one of the series that the method and the URL
  ask for. -/
  name : IsNextName (Endpoint.functionBase g.method u) b.functionName earlier
  /-- Behind the words of the method it asks for those of host and path. -/
  base : ∃ place, Endpoint.functionBase g.method u
      = joinedWords "call" (Text.lower g.method) ++ "_" ++ place ∧ Endpoint.IsPlaceName place

namespace Session

variable {standIns : Text.StandIns}

/-- **Binding a group** gives a name under its key, and none under any
other. -/
theorem exists_assign_of_bind {s t : Session} {g : EndpointGroup} {b : Binding}
    (h : s.bind standIns g = .ok (b, t)) (hne : g.exchanges ≠ [])
    (hurl : ∀ e ∈ g.exchanges, e.Readable) :
    ∃ first rest u, g.exchanges = first :: rest ∧ Url.parse first.request.url = .ok u
      ∧ b.IsAt g first u
      ∧ b.functionName
        = (s.functionNames.assign g.key (Endpoint.functionBase g.method u)).1
      ∧ t.functionNames
        = (s.functionNames.assign g.key (Endpoint.functionBase g.method u)).2 := by
  obtain ⟨first, rest, hfirst⟩ := List.exists_cons_of_ne_nil hne
  obtain ⟨u, hu⟩ := hurl first (by rw [hfirst]; exact List.mem_cons_self)
  obtain ⟨hat, hassign⟩ := isAt_of_bind h hfirst hu
  exact ⟨first, rest, u, hfirst, hu, hat, congrArg Prod.fst hassign, congrArg Prod.snd hassign⟩

/-- **Binding several groups** whose keys are new: behind it the names of
the bindings are taken as well, and the keys of other groups are as new
as they were. -/
theorem functionNames_bindAll {s t : Session} {gs : List EndpointGroup} {bs : List Binding}
    (h : s.bindAll standIns gs = .ok (bs, t)) (hgroups : WellGrouped gs)
    (hnew : ∀ g ∈ gs, s.functionNames.find? g.key = none) :
    t.functionNames.taken = (bs.map Binding.functionName).reverse ++ s.functionNames.taken
      ∧ (∀ key ∉ gs.map EndpointGroup.key,
          t.functionNames.find? key = s.functionNames.find? key)
      ∧ (s.functionNames.Faithful → t.functionNames.Faithful)
      ∧ bs.length = gs.length := by
  induction gs generalizing s bs with
  | nil =>
    cases h
    exact ⟨rfl, fun _ _ => rfl, id, rfl⟩
  | cons g gs ih =>
    obtain ⟨b, bs', s₁, rfl, hbind, hrest⟩ := exists_of_bindAll_cons h
    obtain ⟨-, -, u, -, -, -, hname, hnames⟩ := exists_assign_of_bind hbind
      (hgroups.nonempty g List.mem_cons_self) (hgroups.readable g List.mem_cons_self)
    have hother : ∀ key, key ≠ g.key →
        s₁.functionNames.find? key = s.functionNames.find? key := fun key hne => by
      rw [hnames]
      exact s.functionNames.find?_assign_of_ne hne _
    -- no other group has the key, so the keys of the others are still new
    have hkey := (List.nodup_cons.mp hgroups.nodup).1
    obtain ⟨htaken, hothers, hfaithful, hlength⟩ := ih hrest hgroups.tail fun p hp => by
      rw [hother p.key fun heq => hkey (heq ▸ List.mem_map_of_mem hp)]
      exact hnew p (List.mem_cons_of_mem _ hp)
    refine ⟨?_, fun key hnot => ?_, fun hs => hfaithful ?_, congrArg (· + 1) hlength⟩
    · obtain ⟨hfirst, htaken₁⟩ := Table.assign_of_find?_eq_none (hnew g List.mem_cons_self)
        (Endpoint.functionBase g.method u)
      rw [htaken, hnames, htaken₁, ← hfirst, ← hname, List.map_cons, List.reverse_cons,
        List.append_assoc]
      rfl
    · rw [List.map_cons, List.mem_cons, not_or] at hnot
      rw [hothers key hnot.2, hother key hnot.1]
    · rw [hnames]
      exact hs.assign g.key _

end Session

/-- **No two functions share a name.** A run, from whatever session it
starts, has one binding for each group, in order. The function of a binding
has the name that the method and the first URL of its group ask for, or
that name with the least number that no earlier function has. -/
theorem called_run (s : Session) (capture : Capture) :
    ∃ sdk final, s.run capture = .ok (sdk, final)
      ∧ (sdk.bindings.map Binding.functionName).Nodup
      ∧ sdk.bindings.length = (groupExchanges capture.exchanges).length
      ∧ ∀ before g behind, groupExchanges capture.exchanges = before ++ g :: behind →
        ∃ bs b bs', sdk.bindings = bs ++ b :: bs' ∧ bs.length = before.length
          ∧ ∃ first rest u, g.exchanges = first :: rest ∧ Url.parse first.request.url = .ok u
            ∧ b.IsAt g first u ∧ b.CalledAfter g u (bs.map Binding.functionName) := by
  have hgroups := wellGrouped_groupExchanges capture.exchanges
  obtain ⟨sdk, final, hrun, hbindAll, -⟩ := s.exists_run_eq capture
  obtain ⟨htaken, -, hfaithful, hlength⟩ :=
    Session.functionNames_bindAll hbindAll hgroups fun _ _ => rfl
  refine ⟨sdk, final, hrun, ?_, hlength, fun before g behind hsplit => ?_⟩
  · have hnodup := (hfaithful Table.faithful_empty).nodup
    rw [htaken] at hnodup
    exact List.nodup_reverse.mp (List.nodup_append.mp hnodup).1
  · rw [hsplit] at hbindAll hgroups
    obtain ⟨bs, b, bs', s₀, s₁, hbindings, hbefore, hbind, -⟩ :=
      Session.exists_of_bindAll_append hbindAll
    obtain ⟨hfront, hkeys⟩ := hgroups.append
    obtain ⟨htaken₀, hothers, -, hlength₀⟩ :=
      Session.functionNames_bindAll hbefore hfront fun _ _ => rfl
    obtain ⟨first, rest, u, hfirst, hu, hat, hname, -⟩ := Session.exists_assign_of_bind hbind
      (hgroups.nonempty g (by simp)) (hgroups.readable g (by simp))
    refine ⟨bs, b, bs', hbindings, hlength₀, first, rest, u, hfirst, hu, hat, ?_,
      _, Endpoint.functionBase_eq g.method u, Endpoint.isPlaceName_placeName u⟩
    rw [hname]
    refine isNextName_assign (hothers g.key hkeys) _ fun name => ?_
    rw [htaken₀]
    simp [Session.reset, Table.empty]

end TypedTraffic
