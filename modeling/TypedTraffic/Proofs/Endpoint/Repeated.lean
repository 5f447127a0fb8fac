import TypedTraffic.Proofs.Endpoint.Grouped

/-!
# Groups of a capture in which an exchange is repeated

An exchange that is recorded twice belongs to one group, where it is then
twice, and all other groups stay (`repeats_groupExchanges`). The query
parameters of the group stay too, since a parameter and its values count
once (`queryParameters_repeated`).
-/

namespace TypedTraffic

/-- A list with an element filtered on its own. -/
theorem filterMap_append_cons {α β : Type} (f : α → Option β) (xs : List α) (x : α)
    (ys : List α) :
    (xs ++ x :: ys).filterMap f = xs.filterMap f ++ ((f x).toList ++ ys.filterMap f) := by
  rw [List.filterMap_append, List.filterMap_cons]
  cases f x <;> rfl

/-- **A group in which an exchange may be repeated.** -/
inductive EndpointGroup.Repeats (e : Exchange) : EndpointGroup → EndpointGroup → Prop
  /-- The group does not have the exchange. -/
  | same (g : EndpointGroup) : Repeats e g g
  /-- Where the group has the exchange once it has it twice. -/
  | twice (method resource : String) (es es' : List Exchange) :
    Repeats e ⟨method, resource, es ++ e :: es'⟩ ⟨method, resource, es ++ e :: e :: es'⟩

theorem keysOf_repeated (es : List Exchange) (e : Exchange) (es' : List Exchange) :
    keysOf (es ++ e :: e :: es') = keysOf (es ++ e :: es') := by
  have htwice := filterMap_append_cons Exchange.key? [] e es'
  simp only [List.nil_append, List.filterMap_nil] at htwice
  rw [keysOf, keysOf, filterMap_append_cons, filterMap_append_cons, htwice,
    Ordered.distinct_append_append_self]

theorem EndpointGroup.rel_ofExchanges? (es : List Exchange) (e : Exchange) (es' : List Exchange) :
    Option.Rel (Repeats e) (ofExchanges? (es ++ e :: es')) (ofExchanges? (es ++ e :: e :: es')) := by
  cases es with
  | nil =>
    rw [List.nil_append, List.nil_append, ofExchanges?, ofExchanges?]
    cases e.endpoint? with
    | none => exact .none
    | some endpoint => exact .some (.twice _ _ [] es')
  | cons d es =>
    rw [List.cons_append, List.cons_append, ofExchanges?, ofExchanges?]
    cases d.endpoint? with
    | none => exact .none
    | some endpoint => exact .some (.twice _ _ (d :: es) es')

theorem EndpointGroup.rel_withKey (es : List Exchange) (e : Exchange) (es' : List Exchange)
    (key : String) : Option.Rel (Repeats e) (ofExchanges? (withKey key (es ++ e :: es')))
      (ofExchanges? (withKey key (es ++ e :: e :: es'))) := by
  rw [withKey, withKey, List.filter_append, List.filter_append, List.filter_cons,
    List.filter_cons, List.filter_cons]
  split
  · exact rel_ofExchanges? _ e _
  · cases ofExchanges? ((es.filter fun e => e.key? = some key)
        ++ es'.filter fun e => e.key? = some key) with
    | none => exact .none
    | some g => exact .some (.same g)

/-- **The exchange is repeated in its group**, and the other groups stay. -/
theorem repeats_groupExchanges (es : List Exchange) (e : Exchange) (es' : List Exchange) :
    List.Forall₂ (EndpointGroup.Repeats e) (groupExchanges (es ++ e :: es'))
      (groupExchanges (es ++ e :: e :: es')) := by
  rw [groupExchanges_eq, groupExchanges_eq, keysOf_repeated]
  refine List.rel_filterMap (R := Eq) ?_ (List.forall₂_refl _)
  rintro key _ rfl
  exact EndpointGroup.rel_withKey es e es' key

/-- **A repeated exchange has no new query parameters.** -/
theorem queryParameters_repeated {es es' : List Exchange} {e : Exchange}
    (h : ∀ d ∈ es ++ e :: es', d.Readable) :
    queryParameters (es ++ e :: e :: es') = queryParameters (es ++ e :: es') := by
  have hvalues : ∀ xs ys zs : List Form.Pair,
      valuesByKey (xs ++ (ys ++ (ys ++ zs))) = valuesByKey (xs ++ (ys ++ zs)) := by
    intro xs ys zs
    rw [valuesByKey, valuesByKey]
    simp only [List.map_append, List.filter_append, Ordered.distinct_append_append_self]
  rw [queryParameters_eq h, queryParameters_eq fun d hd => h d (by simpa using hd)]
  simp only [List.flatMap_append, List.flatMap_cons, hvalues]

end TypedTraffic
