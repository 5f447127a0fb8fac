import TypedTraffic.Proofs.Endpoint.Grouped

/-!
# Endpoints that meet in one group

The key of an endpoint is its method, an underscore and its resource. Two
endpoints have one key if they are the same, or if they **meet**: what
stands between two underscores of the key belongs to the method of one and
to the resource of the other (`EndpointGroup.keyOf_eq_iff`).

A group is that of its first exchange. So two exchanges share a group
exactly if their endpoints are the same or meet, and all groups are
homogeneous exactly if no two endpoints of the capture meet
(`endpointsShare_groupExchanges`). Methods without an underscore never
meet; but a method is any text, and some do
(`not_homogeneous_underscored`).
-/

namespace TypedTraffic

/-- **Endpoints that meet**: the method of the one is that of the other
with more behind an underscore, and this more stands in front of an
underscore in the resource of the other. -/
def Meets (p q : String × String) : Prop :=
  ∃ between : String, q.1 = p.1 ++ "_" ++ between ∧ p.2 = between ++ "_" ++ q.2

/-- No endpoint meets itself. -/
theorem not_meets_self (p : String × String) : ¬ Meets p p := by
  rintro ⟨between, hmethod, -⟩
  have hlength := congrArg (fun s : String => s.toList.length) hmethod
  simp only [String.toList_append, List.length_append] at hlength
  have hmark : "_".toList.length = 1 := rfl
  omega

/-- Only methods with an underscore meet others. -/
theorem Meets.mem {p q : String × String} (h : Meets p q) : '_' ∈ q.1.toList := by
  obtain ⟨between, hmethod, -⟩ := h
  rw [hmethod, String.toList_append, String.toList_append]
  exact List.mem_append_left _ (List.mem_append_right _ List.mem_cons_self)

/-- The second of two keys that are equal begins where the first does or
behind it. -/
theorem eq_or_meets_of_append {p q : String × String} {tail : List Char}
    (hmethod : q.1.toList = p.1.toList ++ tail)
    (hrest : '_' :: p.2.toList = tail ++ '_' :: q.2.toList) : p = q ∨ Meets p q := by
  cases tail with
  | nil =>
    rw [List.append_nil] at hmethod
    exact Or.inl (Prod.ext (String.toList_inj.mp hmethod.symm)
      (String.toList_inj.mp (List.cons.inj hrest).2))
  | cons c between =>
    obtain ⟨rfl, hresource⟩ := List.cons.inj hrest
    refine Or.inr ⟨String.ofList between, String.toList_inj.mp ?_, String.toList_inj.mp ?_⟩
    · rw [hmethod]
      simp
    · rw [hresource]
      simp

/-- **Two endpoints have one key** exactly if they are the same or meet. -/
theorem EndpointGroup.keyOf_eq_iff (p q : String × String) :
    keyOf p.1 p.2 = keyOf q.1 q.2 ↔ p = q ∨ Meets p q ∨ Meets q p := by
  have hkey : ∀ r : String × String, (keyOf r.1 r.2).toList = r.1.toList ++ '_' :: r.2.toList := by
    intro r
    rw [keyOf, String.toList_append, String.toList_append, List.append_assoc]
    rfl
  constructor
  · intro h
    have hlist := congrArg String.toList h
    rw [hkey, hkey] at hlist
    rcases List.append_eq_append_iff.mp hlist with ⟨tail, hmethod, hrest⟩ | ⟨tail, hmethod, hrest⟩
    · exact (eq_or_meets_of_append hmethod hrest).imp_right Or.inl
    · exact (eq_or_meets_of_append hmethod hrest).imp Eq.symm Or.inr
  · have hmeets : ∀ {r s : String × String}, Meets r s → keyOf r.1 r.2 = keyOf s.1 s.2 := by
      rintro r s ⟨between, hmethod, hresource⟩
      rw [keyOf, keyOf, hmethod, hresource]
      simp only [String.append_assoc]
    rintro (rfl | h | h)
    · rfl
    · exact hmeets h
    · exact (hmeets h).symm

/-! ## What shares a group -/

/-- **A homogeneous group**: all its exchanges are of its endpoint. -/
def EndpointGroup.Homogeneous (g : EndpointGroup) : Prop :=
  ∀ e ∈ g.exchanges, e.endpoint? = some (g.method, g.resource)

/-- Two exchanges are in one of the groups. -/
def ShareGroup (gs : List EndpointGroup) (e e' : Exchange) : Prop :=
  ∃ g ∈ gs, e ∈ g.exchanges ∧ e' ∈ g.exchanges

/-- A group is that of its first exchange. -/
theorem EndpointGroup.exists_first_of_ofExchanges? {es : List Exchange} {g : EndpointGroup}
    (h : ofExchanges? es = some g) :
    ∃ first rest, g.exchanges = first :: rest ∧ first.endpoint? = some (g.method, g.resource) := by
  cases es with
  | nil => cases h
  | cons e es =>
    obtain ⟨endpoint, hendpoint, rfl⟩ := Option.map_eq_some_iff.mp h
    exact ⟨e, es, rfl, hendpoint⟩

namespace Partitions

variable {gs : List (String × EndpointGroup)} {es : List Exchange} (h : Partitions gs es)

include h

/-- What has the key of a group is in it, and nothing else. -/
theorem mem_exchanges_iff {g : EndpointGroup} (hg : g ∈ gs.map Prod.snd) {e : Exchange} :
    e ∈ g.exchanges ↔ e ∈ es ∧ e.key? = some g.key := by
  obtain ⟨p, hp, rfl⟩ := List.mem_map.mp hg
  rw [h.exchanges_eq hp, mem_withKey, h.key_eq hp]

/-- **Two exchanges share a group** exactly if they have one key. -/
theorem shareGroup_iff_key {e e' : Exchange} (he : e ∈ es) (he' : e' ∈ es) {key : String}
    (hkey : e.key? = some key) : ShareGroup (gs.map Prod.snd) e e' ↔ e'.key? = some key := by
  constructor
  · rintro ⟨g, hg, hmem, hmem'⟩
    rw [← hkey, ((h.mem_exchanges_iff hg).mp hmem).2]
    exact ((h.mem_exchanges_iff hg).mp hmem').2
  · intro hkey'
    have hin : key ∈ gs.map Prod.fst := by
      rw [h.keys]
      exact mem_keysOf.mpr ⟨e, he, hkey⟩
    obtain ⟨p, hp, rfl⟩ := List.mem_map.mp hin
    have hg : p.2 ∈ gs.map Prod.snd := List.mem_map_of_mem hp
    rw [← h.key_eq hp] at hkey hkey'
    exact ⟨p.2, hg, (h.mem_exchanges_iff hg).mpr ⟨he, hkey⟩,
      (h.mem_exchanges_iff hg).mpr ⟨he', hkey'⟩⟩

/-- **Two exchanges share a group** exactly if their endpoints are the same
or meet. -/
theorem shareGroup_iff {e e' : Exchange} (he : e ∈ es) (he' : e' ∈ es) {p q : String × String}
    (hp : e.endpoint? = some p) (hq : e'.endpoint? = some q) :
    ShareGroup (gs.map Prod.snd) e e' ↔ p = q ∨ Meets p q ∨ Meets q p := by
  rw [h.shareGroup_iff_key he he' (Exchange.key?_eq hp), Exchange.key?_eq hq, Option.some.injEq,
    eq_comm, EndpointGroup.keyOf_eq_iff p q]

/-- **All groups are homogeneous** exactly if no two endpoints meet. -/
theorem homogeneous_iff : (∀ g ∈ gs.map Prod.snd, g.Homogeneous)
    ↔ ∀ e ∈ es, ∀ e' ∈ es, ∀ p q, e.endpoint? = some p → e'.endpoint? = some q → ¬ Meets p q := by
  constructor
  · intro hall e he e' he' p q hp hq hmeets
    obtain ⟨g, hg, hmem, hmem'⟩ := (h.shareGroup_iff he he' hp hq).mpr (Or.inr (Or.inl hmeets))
    -- both endpoints are that of the group
    have heq : p = q := by
      have hsame := (hall g hg e hmem).trans (hall g hg e' hmem').symm
      rw [hp, hq] at hsame
      exact Option.some.inj hsame
    exact not_meets_self q (heq ▸ hmeets)
  · intro hnone g hg e he
    obtain ⟨p, hp, rfl⟩ := List.mem_map.mp hg
    obtain ⟨first, rest, hexchanges, hfirst⟩ :=
      EndpointGroup.exists_first_of_ofExchanges? (h.group p hp)
    obtain ⟨hmem, hkey⟩ := (h.mem_exchanges_iff hg).mp he
    obtain ⟨hmem', -⟩ := (h.mem_exchanges_iff hg).mp (hexchanges ▸ List.mem_cons_self)
    obtain ⟨q, hq, -⟩ := Option.map_eq_some_iff.mp hkey
    have hshare : ShareGroup (gs.map Prod.snd) first e :=
      ⟨p.2, hg, hexchanges ▸ List.mem_cons_self, he⟩
    rcases (h.shareGroup_iff hmem' hmem hfirst hq).mp hshare with heq | hmeets | hmeets
    · rw [hq, ← heq]
    · exact absurd hmeets (hnone first hmem' e hmem _ _ hfirst hq)
    · exact absurd hmeets (hnone e hmem first hmem' _ _ hq hfirst)

end Partitions

/-- A group of some exchanges is that of its first. -/
theorem exists_first_of_mem_groupExchanges {es : List Exchange} {g : EndpointGroup}
    (hg : g ∈ groupExchanges es) :
    ∃ first rest, g.exchanges = first :: rest ∧ first.endpoint? = some (g.method, g.resource) := by
  obtain ⟨p, hp, rfl⟩ := List.mem_map.mp hg
  exact EndpointGroup.exists_first_of_ofExchanges? ((partitions_groupsByKey es).group p hp)

/-- **Endpoints share groups** by their keys, and not only with
themselves. -/
structure EndpointsShare (gs : List EndpointGroup) (es : List Exchange) : Prop where
  /-- A group is that of its first exchange. -/
  first : ∀ g ∈ gs, ∃ first rest, g.exchanges = first :: rest
    ∧ first.endpoint? = some (g.method, g.resource)
  /-- An exchange is in a group exactly if it belongs to an endpoint, and
  this is the endpoint of the group or meets it. -/
  members : ∀ g ∈ gs, ∀ e, e ∈ g.exchanges ↔ e ∈ es ∧ ∃ p, e.endpoint? = some p
    ∧ (p = (g.method, g.resource) ∨ Meets p (g.method, g.resource)
      ∨ Meets (g.method, g.resource) p)
  /-- Two exchanges share a group exactly if their endpoints are the same
  or meet. -/
  together : ∀ e ∈ es, ∀ e' ∈ es, ∀ p q, e.endpoint? = some p → e'.endpoint? = some q →
    (ShareGroup gs e e' ↔ p = q ∨ Meets p q ∨ Meets q p)
  /-- All groups are homogeneous exactly if no two endpoints meet. -/
  homogeneous : (∀ g ∈ gs, g.Homogeneous)
    ↔ ∀ e ∈ es, ∀ e' ∈ es, ∀ p q, e.endpoint? = some p → e'.endpoint? = some q → ¬ Meets p q
  /-- So they are if no method has an underscore. -/
  plain : (∀ e ∈ es, ∀ p, e.endpoint? = some p → '_' ∉ p.1.toList) → ∀ g ∈ gs, g.Homogeneous

/-- **Endpoints share groups by their keys**, whatever the exchanges. -/
theorem endpointsShare_groupExchanges (es : List Exchange) :
    EndpointsShare (groupExchanges es) es := by
  have h := partitions_groupsByKey es
  refine ⟨fun g hg => exists_first_of_mem_groupExchanges hg, fun g hg e => ?_,
    fun e he e' he' p q => h.shareGroup_iff he he', h.homogeneous_iff, fun hplain => ?_⟩
  · rw [h.mem_exchanges_iff hg, Exchange.key?, Option.map_eq_some_iff]
    simp only [EndpointGroup.key, EndpointGroup.keyOf_eq_iff _ (g.method, g.resource)]
  · refine h.homogeneous_iff.mpr fun e _ e' he' p q _ hq hmeets => ?_
    exact hplain e' he' q hq hmeets.mem

/-- Two exchanges whose methods and resources differ and whose keys do
not. -/
def underscored : List Exchange :=
  [⟨⟨"GET", "https://h.io/A_b", [], none⟩, Response.default⟩,
    ⟨⟨"GET_A", "https://h.io/b", [], none⟩, Response.default⟩]

/-- **A group can hold two endpoints**: the underscore of a method is not
told from that of the key. -/
theorem not_homogeneous_underscored :
    ¬ ∀ es : List Exchange, ∀ g ∈ groupExchanges es, g.Homogeneous := by
  intro h
  have hgroups : groupExchanges underscored = [⟨"GET", "A_b", underscored⟩] := by
    decide +kernel
  have hall := h underscored ⟨"GET", "A_b", underscored⟩ (hgroups ▸ List.mem_cons_self)
    ⟨⟨"GET_A", "https://h.io/b", [], none⟩, Response.default⟩
    (List.mem_cons_of_mem _ List.mem_cons_self)
  exact absurd hall (by decide +kernel)

end TypedTraffic
