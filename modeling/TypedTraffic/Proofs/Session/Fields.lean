import TypedTraffic.Proofs.Sample.Fields
import TypedTraffic.Proofs.Session.Placed

/-!
# The fields of a run

Every entry of a run was made by a registration, for the query parameters
of a group or for a sample in it, and its definition was laid out in the
names of fields that were there then. The names that are given later leave
these names as they are. So at the end of a run the fields of every
interface stand for their keys, in the one table of field names that the
run leaves (`fielded_run`).
-/

namespace TypedTraffic

open Naming

/-- **A definition with the fields of a group**: those of its query
parameters, or those of a sample in it. -/
inductive EndpointGroup.Fielded (names : FieldNames) (g : EndpointGroup) : Definition → Prop
  /-- The interface of the query parameters has a field for each key in the
  queries of the group, and all are optional. -/
  | query {root : Interface} :
    FieldsFor names (pairKeys (g.exchanges.flatMap Exchange.query)) (fun _ => true) root.fields →
      Fielded names g (.interfaces root [])
  /-- The definition of the body of a request or a response has its
  fields. -/
  | sample {e : Exchange} {text : String} {mime : Option String} {d : Definition} :
    e ∈ g.exchanges →
    e.requestSample? = some (text, mime) ∨ e.responseSample? = some (text, mime) →
    Sample.Fielded names text mime d → Fielded names g d

/-- **Definitions go on having their fields** when more fields are named. -/
theorem EndpointGroup.Fielded.nameFields {names : FieldNames} {g : EndpointGroup} {d : Definition}
    (h : g.Fielded names d) (more : List SourceName) : g.Fielded (names.nameFields more) d := by
  cases h with
  | query hfields => exact Fielded.query (hfields.nameFields more)
  | sample he hsample hfielded => exact Fielded.sample he hsample (hfielded.nameFields more)

namespace EndpointGroup

variable {g : EndpointGroup} {options : Options} {r : Registration}

/-- What is registered for the query parameters of a group are the keys of
its queries. -/
theorem reading_eq_of_mem_params (hurl : ∀ e ∈ g.exchanges, e.Readable)
    (h : r ∈ g.params options) :
    ∃ keys, r.reading = .query keys
      ∧ keys = Ordered.distinct ((g.exchanges.flatMap Exchange.query).map Prod.fst) := by
  unfold params paramsRegistrations at h
  rw [queryParameters_eq hurl] at h
  split at h
  · rename_i p ps heq
    rw [List.mem_singleton.mp h]
    refine ⟨_, rfl, ?_⟩
    rw [← Except.ok.inj heq, valuesByKey, List.map_map]
    exact List.map_id _
  · exact absurd h List.not_mem_nil

/-- What is registered for a body is a sample of the group. -/
theorem exists_of_mem_sampled {stem : String}
    {sample? : Exchange → Option (String × Option String)} {es : List Exchange}
    (h : r ∈ sampled stem sample? es) :
    ∃ e ∈ es, ∃ text mime, sample? e = some (text, mime) ∧ r = .body stem text mime := by
  obtain ⟨⟨text, mime⟩, hsample, rfl⟩ := List.mem_map.mp h
  obtain ⟨e, he, hsome⟩ := List.mem_filterMap.mp hsample
  exact ⟨e, he, text, mime, hsome, rfl⟩

/-- **Every registration of a group has the fields of the group.** -/
theorem fielded_of_mem_registrations (hurl : ∀ e ∈ g.exchanges, e.Readable)
    (hr : r ∈ g.registrations options) {names : FieldNames} (h : names.Reachable) (root : String) :
    g.Fielded (names.nameFields r.reading.keys)
      (r.reading.definition root (names.nameFields r.reading.keys).fieldName) := by
  rw [registrations, List.mem_append, List.mem_append] at hr
  rcases hr with (hr | hr) | hr
  · obtain ⟨keys, hreading, hkeys⟩ := reading_eq_of_mem_params hurl hr
    rw [hreading]
    have hpairs : (Reading.query keys).keys
        = pairKeys (g.exchanges.flatMap Exchange.query) := by
      rw [hkeys]
      rfl
    refine Fielded.query (fieldsFor_of_eq (h.nameFields _) (nodup_pairKeys _) (fun key hkey => ?_) ?_)
    · rw [hpairs]
      exact FieldNames.exists_find?_nameFields names hkey
    · rw [List.map_map, ← hpairs, Reading.keys, List.map_map]
      rfl
  · rw [requests, filterMap_requestRegistration?] at hr
    obtain ⟨e, he, text, mime, hsample, rfl⟩ := exists_of_mem_sampled hr
    exact Fielded.sample he (Or.inl hsample) (Sample.fielded_read h root text mime)
  · rw [responses, filterMap_responseRegistration?] at hr
    obtain ⟨e, he, text, mime, hsample, rfl⟩ := exists_of_mem_sampled hr
    exact Fielded.sample he (Or.inr hsample) (Sample.fielded_read h root text mime)

end EndpointGroup

/-- **An entry has the fields of its group** from its registration on. -/
theorem Ledger.fielded_entry {l : Ledger} (h : l.names.Reachable) {g : EndpointGroup}
    (hurl : ∀ e ∈ g.exchanges, e.Readable) {options : Options} {r : Registration}
    (hr : r ∈ g.registrations options) (behind : List Registration) :
    g.Fielded ((l.after r).run behind).names (l.definition r) := by
  have hfielded := EndpointGroup.fielded_of_mem_registrations hurl hr h (l.candidate r)
  rw [l.definition_eq r, run_names, after_names]
  exact hfielded.nameFields _

/-- **Every interface of a run has its fields**, from whatever session the
run starts. -/
theorem fielded_run (s : Session) (capture : Capture) :
    ∃ sdk final, s.run capture = .ok (sdk, final)
      ∧ ∀ e ∈ sdk.types, ∃ g ∈ groupExchanges capture.exchanges, ∃ d,
        e.definition = d.text ∧ g.Fielded final.fieldNames d := by
  have hgroups := wellGrouped_groupExchanges capture.exchanges
  obtain ⟨sdk, final, hrun, hbind, htypes⟩ := s.exists_run_eq capture
  obtain ⟨_, _, hbind', hledger, -, -⟩ :=
    s.reset.bindAll_spec hgroups.nonempty hgroups.readable
  rw [hbind] at hbind'
  cases hbind'
  refine ⟨sdk, final, hrun, fun e he => ?_⟩
  set start := s.reset.ledger with hstart
  have hmem : e ∈ (start.run ((groupExchanges capture.exchanges).flatMap
      (EndpointGroup.registrations s.reset.options))).types.entries := by
    rw [← hledger]
    exact htypes ▸ he
  -- the entry was made by a registration, and more fields were named behind it
  obtain ⟨before, r, behind, hsplit, -, rfl⟩ :=
    (Ledger.exists_registration hmem).resolve_left List.not_mem_nil
  obtain ⟨g, hg, hr⟩ : ∃ g ∈ groupExchanges capture.exchanges,
      r ∈ g.registrations s.reset.options := by
    refine List.mem_flatMap.mp ?_
    rw [hsplit]
    exact List.mem_append_right _ List.mem_cons_self
  have hreach : (start.run before).names.Reachable := by
    rw [Ledger.run_names]
    exact FieldNames.Reachable.empty.nameFields _
  have hfinal : final.fieldNames = (((start.run before).after r).run behind).names := by
    rw [hsplit, Ledger.run_append] at hledger
    exact congrArg Ledger.names hledger
  refine ⟨g, hg, (start.run before).definition r, rfl, ?_⟩
  rw [hfinal]
  exact Ledger.fielded_entry hreach (hgroups.readable g hg) hr behind

end TypedTraffic
