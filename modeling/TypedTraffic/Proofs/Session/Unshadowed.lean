import TypedTraffic.Client.Module
import TypedTraffic.Proofs.Session.Named

/-!
# No type is shadowed

A module relies on the types of its preamble and on some that are there in
every program. Each name that a run declares has a **role** in it, `Params`,
`Request` or `Response`, and the title of a resource in front of that
(`Registration.Enters.exists_isInfix`). None of the names that a module relies on has a
role behind its first character: `RequestInit` and `ResponseBase` begin with
one, but a title is never empty. So whatever the prefix, the resource, the
keys and the numbers behind a name are, it is none of these
(`unshadowed_generate`).
-/

namespace TypedTraffic

open Naming Text Canonical

/-! ## What a module relies on -/

namespace Client

/-- The types that the lines of the preamble of a module declare. -/
def preambleTypes : List String := preambleLines.flatMap declaredNames

theorem preambleTypes_eq :
    preambleTypes = ["RequestInit", "RequestInfo", "Response", "ApiOptions", "ResponseBase"] := by
  decide +kernel

/-- The types of every program that the preamble, the functions and the types
of bindings are written with. -/
def globalTypes : List String :=
  ["Record", "Promise", "Error", "Parameters", "ReturnType", "Omit", "HeadersInit"]

/-- **The types a module relies on.** -/
def reliedOn : List String := preambleTypes ++ globalTypes

/-- **A role is none of the later words** of a name that a module relies
on. -/
theorem not_isInfix_of_mem_reliedOn {n : String} (hn : n ∈ reliedOn) {role : String}
    (hrole : role ∈ roles) : ¬ role.toList <:+: n.toList.tail := by
  have hnone : ∀ w ∈ ["RequestInit", "RequestInfo", "Response", "ApiOptions", "ResponseBase"]
      ++ globalTypes, ∀ role ∈ roles, ¬ role.toList <:+: w.toList.tail := by
    decide +kernel
  rw [reliedOn, preambleTypes_eq] at hn
  exact hnone n hn role hrole

end Client

/-! ## What a run declares -/

/-- What stands behind a text that is not empty stands in the tail. -/
theorem isInfix_tail_append {a : String} (ha : a.toList ≠ []) (b c : String) :
    b.toList <:+: (a ++ b ++ c).toList.tail := by
  obtain ⟨d, ds, hds⟩ := List.exists_cons_of_ne_nil ha
  refine ⟨ds, c.toList, ?_⟩
  rw [String.toList_append, String.toList_append, hds]
  rfl

/-- **An entry of a registration**: its definition is rooted in the stem of
the registration, with digits behind it. -/
structure Registration.Enters (r : Registration) (e : TypeEntry) (d : Definition) : Prop where
  /-- The name of the entry is the stem and more. -/
  name : ∃ digits, e.name = r.stem ++ digits
  /-- The definition is rooted in the name of the entry. -/
  rooted : d.Rooted e.name

/-- **Every entry of a run** is made from a definition that is rooted in the
stem of a registration. -/
theorem Capture.exists_makes {options : Options} {capture : Capture} {e : TypeEntry}
    (he : e ∈ ((Ledger.start options).run (registrations options capture)).types.entries) :
    ∃ d, capture.Makes options e d ∧ ∃ r ∈ registrations options capture, r.Enters e d := by
  obtain ⟨before, r, behind, hsplit, hnew, rfl⟩ :=
    (Ledger.exists_registration he).resolve_left List.not_mem_nil
  have hled := isLed_of_typePrefix (charsOf_tokens options.typePrefix.toList).symm capture
  have hsound : ((Ledger.start options).run before).Sound (tokens options.typePrefix.toList) :=
    (Ledger.sound_start _ options).run fun q hq => hled q (by rw [hsplit]; simp [hq])
  have hr : r ∈ registrations options capture := by rw [hsplit]; simp
  have hentry := hsound.entry (hled r hr)
  obtain ⟨digits, hname, -⟩ := Ledger.candidate_eq ((Ledger.start options).run before) r
  exact ⟨_, ⟨⟨before, r, behind, hsplit, hnew, rfl, rfl⟩, hentry.rooted.name, rfl⟩,
    r, hr, ⟨digits, hname⟩, hentry.rooted⟩

/-- **A declared name has a role in its tail**, since the title of a resource
is in front of the role. -/
theorem Registration.Enters.exists_isInfix {options : Options} {capture : Capture}
    {r : Registration} (hr : r ∈ registrations options capture) {e : TypeEntry} {d : Definition}
    (h : r.Enters e d) {n : String} (hn : n ∈ d.names) :
    ∃ role ∈ roles, role.toList <:+: n.toList.tail := by
  obtain ⟨g, -, hg⟩ := List.mem_flatMap.mp hr
  obtain ⟨role, hrole, hstem⟩ := g.exists_role hg
  obtain ⟨digits, hname⟩ := h.name
  obtain ⟨tail, hn, -⟩ := h.rooted.stems n hn
  have hfront : (g.stem options).toList ≠ [] := by
    obtain ⟨c, cs, hcs, -, -⟩ := g.isTitle_resource
    rw [EndpointGroup.stem, String.toList_append, hcs]
    simp
  have hsplit : n = g.stem options ++ role ++ (digits ++ tail) := by
    rw [hn, hname, hstem]
    exact String.append_assoc
  refine ⟨role, hrole, ?_⟩
  rw [hsplit]
  exact isInfix_tail_append hfront role (digits ++ tail)

/-- **No run shadows what its module relies on.** Whatever the prefix is,
every entry is made from a definition, and none of the names it declares,
the first and those of the auxiliary interfaces, is that of a type of the
preamble or of a type of every program that the module is written with. -/
theorem unshadowed_generate (options : Options) (capture : Capture) :
    ∃ sdk s, generate options capture = .ok (sdk, s)
      ∧ ∀ e ∈ sdk.types, ∃ d, capture.Makes options e d
        ∧ ∀ n ∈ d.names, n ∉ Client.reliedOn := by
  obtain ⟨sdk, s, hrun, hledger, htypes, -⟩ := exists_generate_eq options capture
  refine ⟨sdk, s, hrun, fun e he => ?_⟩
  rw [htypes, hledger] at he
  obtain ⟨d, hmakes, r, hr, henters⟩ := Capture.exists_makes he
  refine ⟨d, hmakes, fun n hn hrelied => ?_⟩
  obtain ⟨role, hrole, hinfix⟩ := henters.exists_isInfix hr hn
  exact Client.not_isInfix_of_mem_reliedOn hrelied hrole hinfix

end TypedTraffic
