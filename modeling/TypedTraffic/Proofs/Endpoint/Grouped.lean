import Mathlib.Algebra.Ring.Nat
import Mathlib.Data.List.Induction
import Mathlib.Data.List.Nodup
import TypedTraffic.Endpoint.Group

/-!
# Groups of exchanges

Grouping goes through the exchanges one by one. What comes of it can be
said without the loop: the keys are those of the exchanges, in order of
first appearance, and under each key is the sublist of the exchanges that
have it (`groupsByKey_eq`). So nothing is lost, nothing is in two groups,
and exchanges of other keys make no difference to a group
(`stablyPartitions_groupsByKey`).

Grouping makes no empty group, gives no key two groups and takes up only
exchanges with a URL that can be read (`wellGrouped_groupExchanges`). So
the check of the groups finds no fault in them (`groupFault?_groupExchanges`).
-/

namespace TypedTraffic

/-! ## The groups without the loop -/

/-- The key of the endpoint an exchange belongs to, if it belongs to one. -/
def Exchange.key? (e : Exchange) : Option String :=
  e.endpoint?.map fun endpoint => EndpointGroup.keyOf endpoint.1 endpoint.2

/-- **The keys of some exchanges**, in order of first appearance. -/
def keysOf (es : List Exchange) : List String := Ordered.distinct (es.filterMap Exchange.key?)

/-- **The exchanges with a key**, in order. -/
def withKey (key : String) (es : List Exchange) : List Exchange :=
  es.filter fun e => e.key? = some key

/-- The group of exchanges that have one key: that of the endpoint of the
first of them. -/
def EndpointGroup.ofExchanges? : List Exchange → Option EndpointGroup
  | [] => none
  | e :: es => e.endpoint?.map fun endpoint => ⟨endpoint.1, endpoint.2, e :: es⟩

/-- **The groups of some exchanges**, key by key. -/
def groupsOf (es : List Exchange) : List (String × EndpointGroup) :=
  (keysOf es).filterMap fun key =>
    (EndpointGroup.ofExchanges? (withKey key es)).map fun g => (key, g)

theorem mem_keysOf {key : String} {es : List Exchange} :
    key ∈ keysOf es ↔ ∃ e ∈ es, e.key? = some key := by
  rw [keysOf, Ordered.mem_distinct, List.mem_filterMap]

theorem mem_withKey {key : String} {es : List Exchange} {e : Exchange} :
    e ∈ withKey key es ↔ e ∈ es ∧ e.key? = some key := by
  rw [withKey, List.mem_filter, decide_eq_true_iff]

theorem keysOf_concat (es : List Exchange) {e : Exchange} {key : String} (he : e.key? = some key) :
    keysOf (es ++ [e]) = if key ∈ keysOf es then keysOf es else keysOf es ++ [key] := by
  have hsingle : [e].filterMap Exchange.key? = [key] := by rw [List.filterMap_cons, he]; rfl
  rw [keysOf, List.filterMap_append, hsingle, Ordered.distinct_concat]
  simp only [keysOf, Ordered.mem_distinct]

theorem withKey_concat (key : String) (es : List Exchange) (e : Exchange) :
    withKey key (es ++ [e]) = if e.key? = some key then withKey key es ++ [e]
      else withKey key es := by
  rw [withKey, List.filter_append, ← withKey]
  split
  · rename_i he
    rw [List.filter_cons_of_pos (by simpa using he), List.filter_nil]
  · rename_i he
    rw [List.filter_cons_of_neg (by simpa using he), List.filter_nil, List.append_nil]

namespace EndpointGroup

theorem exchanges_of_ofExchanges? {es : List Exchange} {g : EndpointGroup}
    (h : ofExchanges? es = some g) : g.exchanges = es := by
  cases es with
  | nil => cases h
  | cons e es =>
    obtain ⟨endpoint, -, rfl⟩ := Option.map_eq_some_iff.mp h
    rfl

/-- The key of a group is that of its first exchange. -/
theorem exists_of_ofExchanges? {es : List Exchange} {g : EndpointGroup}
    (h : ofExchanges? es = some g) : ∃ e ∈ es, e.key? = some g.key := by
  cases es with
  | nil => cases h
  | cons e es =>
    obtain ⟨endpoint, hendpoint, rfl⟩ := Option.map_eq_some_iff.mp h
    exact ⟨e, List.mem_cons_self, Option.map_eq_some_iff.mpr ⟨endpoint, hendpoint, rfl⟩⟩

theorem ofExchanges?_concat {es : List Exchange} {g : EndpointGroup}
    (h : ofExchanges? es = some g) (e : Exchange) :
    ofExchanges? (es ++ [e]) = some (g.add e) := by
  cases es with
  | nil => cases h
  | cons d es =>
    obtain ⟨endpoint, hendpoint, rfl⟩ := Option.map_eq_some_iff.mp h
    exact Option.map_eq_some_iff.mpr ⟨endpoint, hendpoint, rfl⟩

end EndpointGroup

/-! ## The loop -/

/-- **What putting an exchange into its group does**: the group under the
key grows, or a new group goes behind the others. -/
theorem insertExchange_cases (method resource : String) (e : Exchange)
    (gs : List (String × EndpointGroup)) :
    let key := EndpointGroup.keyOf method resource
    (∃ before g behind, gs = before ++ (key, g) :: behind
      ∧ insertExchange method resource e gs = before ++ (key, g.add e) :: behind)
    ∨ key ∉ gs.map Prod.fst
      ∧ insertExchange method resource e gs = gs ++ [(key, ⟨method, resource, [e]⟩)] := by
  intro key
  induction gs with
  | nil => exact Or.inr ⟨List.not_mem_nil, rfl⟩
  | cons p gs ih =>
    obtain ⟨k, g⟩ := p
    rw [insertExchange]
    split
    · rename_i hk
      exact Or.inl ⟨[], g, gs, by rw [hk]; rfl, by rw [hk]; rfl⟩
    · rename_i hk
      rcases ih with ⟨before, g', behind, rfl, heq⟩ | ⟨hkey, heq⟩
      · exact Or.inl ⟨(k, g) :: before, g', behind, rfl, by rw [heq]; rfl⟩
      · refine Or.inr ⟨?_, by rw [heq]; rfl⟩
        rw [List.map_cons, List.mem_cons]
        exact fun h => h.elim (fun h => hk h.symm) hkey

/-- **The invariant of grouping**: the groups after some exchanges. -/
structure Partitions (gs : List (String × EndpointGroup)) (es : List Exchange) : Prop where
  /-- The keys are those of the exchanges, in order of first appearance. -/
  keys : gs.map Prod.fst = keysOf es
  /-- Under a key is the group of the exchanges that have it. -/
  group : ∀ p ∈ gs, EndpointGroup.ofExchanges? (withKey p.1 es) = some p.2
  /-- The groups have as many exchanges as belong to an endpoint. -/
  total : (gs.map fun p => p.2.exchanges.length).sum
    = (es.filter fun e => e.absoluteUrl?.isSome).length

theorem partitions_nil : Partitions [] [] where
  keys := rfl
  group _ hp := absurd hp List.not_mem_nil
  total := rfl

/-- The key of an exchange is that of its endpoint. -/
theorem Exchange.key?_eq {e : Exchange} {method resource : String}
    (he : e.endpoint? = some (method, resource)) :
    e.key? = some (EndpointGroup.keyOf method resource) := by
  rw [Exchange.key?, he]
  rfl

/-- An exchange that belongs to an endpoint is one more with an absolute
URL. -/
theorem length_absolute_concat (es : List Exchange) {e : Exchange} {endpoint : String × String}
    (he : e.endpoint? = some endpoint) :
    ((es ++ [e]).filter fun e => e.absoluteUrl?.isSome).length
      = (es.filter fun e => e.absoluteUrl?.isSome).length + 1 := by
  obtain ⟨u, hu, -⟩ := Option.map_eq_some_iff.mp he
  rw [List.filter_append, List.filter_cons, hu]
  simp

namespace Partitions

variable {gs : List (String × EndpointGroup)} {es : List Exchange} {e : Exchange}
  {method resource : String}

/-- An exchange that belongs to no endpoint changes nothing. -/
theorem skip (h : Partitions gs es) (he : e.endpoint? = none) : Partitions gs (es ++ [e]) := by
  have hkey : e.key? = none := by rw [Exchange.key?, he]; rfl
  have habsolute : e.absoluteUrl? = none := Option.map_eq_none_iff.mp he
  refine ⟨?_, fun p hp => ?_, ?_⟩
  · rw [h.keys, keysOf, keysOf, List.filterMap_append, List.filterMap_cons, hkey]
    simp
  · rw [withKey_concat, hkey, if_neg (by simp)]
    exact h.group p hp
  · rw [h.total, List.filter_append, List.filter_cons, habsolute]
    simp

/-- The groups under other keys stay. -/
theorem other (h : Partitions gs es) (he : e.endpoint? = some (method, resource))
    {p : String × EndpointGroup} (hp : p ∈ gs) (hne : p.1 ≠ EndpointGroup.keyOf method resource) :
    EndpointGroup.ofExchanges? (withKey p.1 (es ++ [e])) = some p.2 := by
  rw [withKey_concat, Exchange.key?_eq he, if_neg fun heq => hne (Option.some.inj heq).symm]
  exact h.group p hp

/-- **The group under the key of an exchange grows.** -/
theorem grow {before behind : List (String × EndpointGroup)} {g : EndpointGroup}
    (h : Partitions (before ++ (EndpointGroup.keyOf method resource, g) :: behind) es)
    (he : e.endpoint? = some (method, resource)) :
    Partitions (before ++ (EndpointGroup.keyOf method resource, g.add e) :: behind)
      (es ++ [e]) := by
  have hkey := Exchange.key?_eq he
  have hmem : EndpointGroup.keyOf method resource ∈ keysOf es := by
    rw [← h.keys]
    simp
  have hnodup : EndpointGroup.keyOf method resource ∉ before.map Prod.fst ++ behind.map Prod.fst := by
    have hall : ((before ++ (EndpointGroup.keyOf method resource, g) :: behind).map
        Prod.fst).Nodup := h.keys ▸ Ordered.nodup_distinct _
    rw [List.map_append, List.map_cons, List.nodup_middle, List.nodup_cons] at hall
    exact hall.1
  refine ⟨?_, fun p hp => ?_, ?_⟩
  · rw [keysOf_concat es hkey, if_pos hmem, ← h.keys]
    simp
  · rcases List.mem_append.mp hp with hp | hp
    · refine h.other he (List.mem_append_left _ hp) fun hk => hnodup ?_
      exact List.mem_append_left _ (List.mem_map.mpr ⟨p, hp, hk⟩)
    · rcases List.mem_cons.mp hp with rfl | hp
      · rw [withKey_concat, if_pos hkey]
        refine EndpointGroup.ofExchanges?_concat (h.group (_, g) ?_) e
        exact List.mem_append_right _ List.mem_cons_self
      · refine h.other he (List.mem_append_right _ (List.mem_cons_of_mem _ hp)) fun hk => hnodup ?_
        exact List.mem_append_right _ (List.mem_map.mpr ⟨p, hp, hk⟩)
  · have htotal := h.total
    rw [length_absolute_concat es he]
    simp only [List.map_append, List.map_cons, List.sum_append, List.sum_cons,
      EndpointGroup.add, List.length_append, List.length_singleton] at htotal ⊢
    omega

/-- **An exchange with a new key starts a group.** -/
theorem start (h : Partitions gs es) (he : e.endpoint? = some (method, resource))
    (hnew : EndpointGroup.keyOf method resource ∉ gs.map Prod.fst) :
    Partitions (gs ++ [(EndpointGroup.keyOf method resource, ⟨method, resource, [e]⟩)])
      (es ++ [e]) := by
  have hkey := Exchange.key?_eq he
  have hmem : EndpointGroup.keyOf method resource ∉ keysOf es := h.keys ▸ hnew
  refine ⟨?_, fun p hp => ?_, ?_⟩
  · rw [keysOf_concat es hkey, if_neg hmem, ← h.keys, List.map_append]
    rfl
  · rcases List.mem_append.mp hp with hp | hp
    · exact h.other he hp fun hk => hnew (List.mem_map.mpr ⟨p, hp, hk⟩)
    · -- no earlier exchange has the key of the new group
      have hnone : withKey (EndpointGroup.keyOf method resource) es = [] := by
        refine List.filter_eq_nil_iff.mpr fun d hd hk => hmem ?_
        exact mem_keysOf.mpr ⟨d, hd, by simpa using hk⟩
      rw [List.mem_singleton.mp hp, withKey_concat, if_pos hkey, hnone]
      exact Option.map_eq_some_iff.mpr ⟨_, he, rfl⟩
  · rw [length_absolute_concat es he, ← h.total]
    simp

/-- **One exchange more** keeps the invariant. -/
theorem groupExchange (h : Partitions gs es) (e : Exchange) :
    Partitions (groupExchange gs e) (es ++ [e]) := by
  unfold TypedTraffic.groupExchange
  cases he : e.endpoint? with
  | none => exact h.skip he
  | some endpoint =>
    rcases insertExchange_cases endpoint.1 endpoint.2 e gs with
      ⟨before, g, behind, rfl, heq⟩ | ⟨hnew, heq⟩
    · simp only [heq]
      exact h.grow he
    · simp only [heq]
      exact h.start he hnew

end Partitions

/-- **Grouping keeps the invariant.** -/
theorem partitions_groupsByKey (es : List Exchange) : Partitions (groupsByKey es) es := by
  have hfold : ∀ (es done : List Exchange) (gs : List (String × EndpointGroup)),
      Partitions gs done → Partitions (es.foldl groupExchange gs) (done ++ es) := by
    intro es
    induction es with
    | nil => exact fun done _ h => by rwa [List.append_nil]
    | cons e es ih =>
      intro done gs h
      have hstep := ih (done ++ [e]) _ (h.groupExchange e)
      rwa [List.append_assoc] at hstep
  exact hfold es [] [] partitions_nil

namespace Partitions

variable {gs : List (String × EndpointGroup)} {es : List Exchange} (h : Partitions gs es)

include h

/-- **The invariant leaves no choice.** -/
theorem eq_groupsOf : gs = groupsOf es := by
  rw [groupsOf, ← h.keys, List.filterMap_map]
  have hself : ∀ p ∈ gs, ((fun key => (EndpointGroup.ofExchanges? (withKey key es)).map
      fun g => (key, g)) ∘ Prod.fst) p = some p := by
    intro p hp
    rw [Function.comp_apply, h.group p hp]
    rfl
  rw [List.filterMap_congr hself, List.filterMap_some]

theorem exchanges_eq {p : String × EndpointGroup} (hp : p ∈ gs) :
    p.2.exchanges = withKey p.1 es :=
  EndpointGroup.exchanges_of_ofExchanges? (h.group p hp)

/-- A group is under its own key. -/
theorem key_eq {p : String × EndpointGroup} (hp : p ∈ gs) : p.2.key = p.1 := by
  obtain ⟨e, he, hkey⟩ := EndpointGroup.exists_of_ofExchanges? (h.group p hp)
  rw [(mem_withKey.mp he).2] at hkey
  exact (Option.some.inj hkey).symm

theorem map_key_eq : (gs.map Prod.snd).map EndpointGroup.key = keysOf es := by
  rw [List.map_map, ← h.keys]
  exact List.map_congr_left fun p hp => h.key_eq hp

end Partitions

/-- **The loop makes the groups key by key.** -/
theorem groupsByKey_eq (es : List Exchange) : groupsByKey es = groupsOf es :=
  (partitions_groupsByKey es).eq_groupsOf

/-- The groups of some exchanges are those of the sublists of their keys. -/
theorem groupExchanges_eq (es : List Exchange) :
    groupExchanges es = (keysOf es).filterMap fun key =>
      EndpointGroup.ofExchanges? (withKey key es) := by
  rw [groupExchanges, groupsByKey_eq, groupsOf, List.map_filterMap]
  refine List.filterMap_congr fun key _ => ?_
  rw [Option.map_map]
  exact Option.map_id'

/-- **The groups share out the exchanges** that have an absolute URL. -/
theorem perm_groupExchanges (es : List Exchange) :
    ((groupExchanges es).flatMap EndpointGroup.exchanges).Perm
      (es.filter fun e => e.absoluteUrl?.isSome) := by
  have hgroups : ∀ es, (groupExchanges es).flatMap EndpointGroup.exchanges
      = (groupsByKey es).flatMap fun p => p.2.exchanges := fun es => by
    rw [groupExchanges, List.flatMap_map]
  rw [hgroups]
  induction es using List.reverseRecOn with
  | nil => exact .nil
  | append_singleton es e ih =>
    have hstep : groupsByKey (es ++ [e]) = groupExchange (groupsByKey es) e :=
      List.foldl_concat groupExchange [] e es
    rw [hstep, List.filter_append]
    unfold groupExchange
    cases he : e.endpoint? with
    | none =>
      have habsolute : e.absoluteUrl? = none := Option.map_eq_none_iff.mp he
      rw [List.filter_cons_of_neg (by rw [habsolute]; decide), List.filter_nil, List.append_nil]
      exact ih
    | some endpoint =>
      obtain ⟨u, hu, -⟩ := Option.map_eq_some_iff.mp he
      rw [List.filter_cons_of_pos (by rw [hu]; rfl), List.filter_nil]
      refine List.Perm.trans ?_ (ih.append_right [e])
      rcases insertExchange_cases endpoint.1 endpoint.2 e (groupsByKey es) with
        ⟨before, g, behind, hgs, heq⟩ | ⟨-, heq⟩
      · -- behind its group the exchange moves past the other groups
        simp only [heq]
        simp only [hgs, List.flatMap_append, List.flatMap_cons, EndpointGroup.add,
          List.append_assoc]
        exact ((List.perm_append_comm).append_left _).append_left _
      · simp only [heq, List.flatMap_append, List.flatMap_cons, List.flatMap_nil]
        exact .refl _

/-- Only the keys and the exchanges under each key matter. -/
theorem groupsOf_congr {es es' : List Exchange} (hkeys : keysOf es' = keysOf es)
    (hexchanges : ∀ key ∈ keysOf es, withKey key es' = withKey key es) :
    groupsOf es' = groupsOf es := by
  rw [groupsOf, groupsOf, hkeys]
  exact List.filterMap_congr fun key hkey => by rw [hexchanges key hkey]

/-! ## Groups as they should be -/

/-- The URL of an exchange can be read. -/
def Exchange.Readable (e : Exchange) : Prop := ∃ u, Url.parse e.request.url = .ok u

theorem Exchange.readable_of_key? {e : Exchange} {key : String} (h : e.key? = some key) :
    e.Readable := by
  obtain ⟨endpoint, hendpoint, -⟩ := Option.map_eq_some_iff.mp h
  unfold Exchange.endpoint? Exchange.absoluteUrl? at hendpoint
  split at hendpoint
  · rename_i u hu
    exact ⟨u, hu⟩
  · cases hendpoint

/-- **Groups as grouping makes them.** -/
structure WellGrouped (gs : List EndpointGroup) : Prop where
  /-- No group is empty. -/
  nonempty : ∀ g ∈ gs, g.exchanges ≠ []
  /-- URLs can be read. -/
  readable : ∀ g ∈ gs, ∀ e ∈ g.exchanges, e.Readable
  /-- No key has two groups. -/
  nodup : (gs.map EndpointGroup.key).Nodup

theorem WellGrouped.tail {g : EndpointGroup} {gs : List EndpointGroup}
    (h : WellGrouped (g :: gs)) : WellGrouped gs where
  nonempty p hp := h.nonempty p (List.mem_cons_of_mem _ hp)
  readable p hp := h.readable p (List.mem_cons_of_mem _ hp)
  nodup := (List.nodup_cons.mp h.nodup).2

/-- **The groups in front of a group** are as they should be, and none of
them has its key. -/
theorem WellGrouped.append {before behind : List EndpointGroup} {g : EndpointGroup}
    (h : WellGrouped (before ++ g :: behind)) :
    WellGrouped before ∧ g.key ∉ before.map EndpointGroup.key := by
  have hnodup := h.nodup
  rw [List.map_append, List.map_cons, List.nodup_append] at hnodup
  obtain ⟨hbefore, -, hdisjoint⟩ := hnodup
  refine ⟨⟨fun p hp => h.nonempty p (List.mem_append_left _ hp),
    fun p hp => h.readable p (List.mem_append_left _ hp), hbefore⟩, fun hmem => ?_⟩
  exact hdisjoint _ hmem _ List.mem_cons_self rfl

/-- **Grouping makes groups as they should be.** -/
theorem wellGrouped_groupExchanges (exchanges : List Exchange) :
    WellGrouped (groupExchanges exchanges) := by
  have h := partitions_groupsByKey exchanges
  refine ⟨fun g hg hnil => ?_, fun g hg e he => ?_, ?_⟩
  · obtain ⟨p, hp, rfl⟩ := List.mem_map.mp hg
    obtain ⟨e, he, -⟩ := EndpointGroup.exists_of_ofExchanges? (h.group p hp)
    rw [← h.exchanges_eq hp, hnil] at he
    exact absurd he List.not_mem_nil
  · obtain ⟨p, hp, rfl⟩ := List.mem_map.mp hg
    rw [h.exchanges_eq hp] at he
    exact Exchange.readable_of_key? (mem_withKey.mp he).2
  · rw [groupExchanges, h.map_key_eq]
    exact Ordered.nodup_distinct _

/-- **The check of the groups finds no fault.** -/
theorem groupFault?_groupExchanges (exchanges : List Exchange) :
    groupFault? (groupExchanges exchanges) = none := by
  have hafter : ∀ (gs : List EndpointGroup) (seen : List String), WellGrouped gs →
      (∀ key ∈ gs.map EndpointGroup.key, key ∉ seen) → groupFaultAfter seen gs = none := by
    intro gs
    induction gs with
    | nil => exact fun _ _ _ => rfl
    | cons g gs ih =>
      intro seen hgs hseen
      have hkey := (List.nodup_cons.mp hgs.nodup).1
      have hnonempty : g.exchanges.isEmpty = false := by
        simpa using hgs.nonempty g List.mem_cons_self
      rw [groupFaultAfter, hnonempty, if_neg (by decide), if_neg (hseen _ List.mem_cons_self)]
      refine ih _ hgs.tail fun key hmem hcons => ?_
      rcases List.mem_cons.mp hcons with rfl | hmem'
      · exact hkey hmem
      · exact hseen key (List.mem_cons_of_mem _ hmem) hmem'
  exact hafter _ [] (wellGrouped_groupExchanges exchanges) fun _ _ => List.not_mem_nil

/-- **A stable partition** of some exchanges into groups by key. -/
structure StablyPartitions (gs : List (String × EndpointGroup)) (es : List Exchange) : Prop where
  /-- The keys are those of the exchanges, in order of first appearance. -/
  keys : gs.map Prod.fst = keysOf es
  /-- No key has two groups. -/
  nodup : (gs.map Prod.fst).Nodup
  /-- Under a key are the exchanges that have it, each as often as it is
  there and in order. -/
  exchanges : ∀ p ∈ gs, p.2.exchanges = withKey p.1 es
  /-- A group is under its own key. -/
  key : ∀ p ∈ gs, p.2.key = p.1
  /-- The groups have as many exchanges as there are with an absolute
  URL. -/
  total : (gs.map fun p => p.2.exchanges.length).sum
    = (es.filter fun e => e.absoluteUrl?.isSome).length
  /-- The check of the groups finds no fault. -/
  consistent : groupFault? (gs.map Prod.snd) = none
  /-- Other exchanges have these groups exactly if they have these keys in
  this order, with the same exchanges under each. -/
  determined : ∀ es', groupsByKey es' = gs
    ↔ keysOf es' = keysOf es ∧ ∀ key ∈ keysOf es, withKey key es' = withKey key es

/-- **Grouping is a stable partition.** -/
theorem stablyPartitions_groupsByKey (es : List Exchange) :
    StablyPartitions (groupsByKey es) es := by
  have h := partitions_groupsByKey es
  refine ⟨h.keys, h.keys ▸ Ordered.nodup_distinct _, fun _ => h.exchanges_eq, fun _ => h.key_eq,
    h.total, groupFault?_groupExchanges es, fun es' => ⟨fun heq => ?_, fun ⟨hkeys, hexchanges⟩ => ?_⟩⟩
  · have h' := partitions_groupsByKey es'
    rw [heq] at h'
    refine ⟨h'.keys.symm.trans h.keys, fun key hkey => ?_⟩
    rw [← h.keys] at hkey
    obtain ⟨p, hp, rfl⟩ := List.mem_map.mp hkey
    rw [← h'.exchanges_eq hp, h.exchanges_eq hp]
  · rw [groupsByKey_eq, groupsByKey_eq, groupsOf_congr hkeys hexchanges]

/-- The parameters of the query of an exchange. -/
def Exchange.query (e : Exchange) : List Form.Pair :=
  match Url.parse e.request.url with
  | .error _ => []
  | .ok u => Form.queryPairs u.query

/-- **Parameters can be read off exchanges** whose URLs can be read. -/
theorem queryParameters_eq {exchanges : List Exchange} (h : ∀ e ∈ exchanges, e.Readable) :
    queryParameters exchanges = .ok (TypedTraffic.valuesByKey (exchanges.flatMap Exchange.query)) := by
  have hpairs : queryPairs exchanges = .ok (exchanges.flatMap Exchange.query) := by
    induction exchanges with
    | nil => rfl
    | cons e es ih =>
      obtain ⟨u, hu⟩ := h e List.mem_cons_self
      rw [queryPairs, ih fun d hd => h d (List.mem_cons_of_mem _ hd), List.flatMap_cons,
        Exchange.query, hu]
  rw [queryParameters, hpairs]

end TypedTraffic
