import TypedTraffic.Proofs.Naming.Assigned

/-!
# Names stay with their source names

A table of names is used step by step: a name is **demanded** for a
source name, as the name of a field or on a base of its own, or
everything is forgotten. The demands of both kinds share one table, so a
name that one of them has made by putting a number behind its base may be
the base of another.

Whatever the steps are, the table stays in step with what has been
demanded since everything was last forgotten (`keepsTo_after`). Two
demands are answered with one name exactly if they are for one source
name, however far apart they are; a source name that is new receives its
base, or its base with the least number that makes it free.
-/

namespace TypedTraffic.Naming.FieldNames

open Text

/-! ## Steps -/

/-- **A demand for a name.** -/
inductive Demand where
  /-- The name of a field. -/
  | field (source : SourceName)
  /-- A name on a base. -/
  | based (source : SourceName) (base : String)

namespace Demand

/-- The source name a demand is for. -/
def source : Demand → SourceName
  | .field source => source
  | .based source _ => source

/-- The name a demand asks for. -/
def base : Demand → String
  | .field source => fieldBase source
  | .based _ base => base

end Demand

/-- **The answer to a demand**, with the table after it. -/
def answer (t : FieldNames) : Demand → String × FieldNames
  | .field source => t.nameField source
  | .based source base => t.assign source base

/-- **A step on a table.** -/
inductive Step where
  /-- A name is demanded. -/
  | demand (d : Demand)
  /-- Everything is forgotten. -/
  | clear

/-- The table after a step. -/
def step (t : FieldNames) : Step → FieldNames
  | .demand d => (t.answer d).2
  | .clear => Table.empty

/-- The table after several steps. -/
def after (t : FieldNames) (steps : List Step) : FieldNames := steps.foldl step t

/-- What has been demanded after one step more. -/
def recorded (demanded : List SourceName) : Step → List SourceName
  | .demand d => demanded ++ [d.source]
  | .clear => []

/-- **The source names that names were demanded for** since everything was
last forgotten. -/
def demandedIn (steps : List Step) : List SourceName := steps.foldl recorded []

/-- A source name has the name. -/
def Held (t : FieldNames) (name : String) : Prop := ∃ source, t.find? source = some name

/-! ## One demand -/

/-- A demand is a name given on its base. -/
theorem answer_eq (t : FieldNames) (d : Demand) : t.answer d = t.assign d.source d.base := by
  cases d <;> rfl

/-- A source name has the name that was the answer. -/
theorem find?_answer_self (t : FieldNames) (d : Demand) :
    (t.answer d).2.find? d.source = some (t.answer d).1 := by
  rw [answer_eq]
  exact t.find?_assign_self d.source d.base

/-- A name stays, whatever is demanded. -/
theorem find?_answer {t : FieldNames} {source : SourceName} {name : String}
    (h : t.find? source = some name) (d : Demand) : (t.answer d).2.find? source = some name := by
  rw [answer_eq]
  exact Table.find?_assign h d.source d.base

theorem find?_answers {t : FieldNames} {source : SourceName} {name : String}
    (h : t.find? source = some name) (ds : List Demand) :
    (t.after (ds.map Step.demand)).find? source = some name := by
  induction ds generalizing t with
  | nil => exact h
  | cons d ds ih => exact ih (find?_answer h d)

/-- **A source name that has a name** is answered with it. -/
theorem answer_of_find? {t : FieldNames} {d : Demand} {name : String}
    (h : t.find? d.source = some name) : (t.answer d).1 = name := by
  have hself := t.find?_answer_self d
  rw [find?_answer h d] at hself
  exact (Option.some.inj hself).symm

/-- A source name has a name after a demand if it had one before or the
demand is for it. -/
theorem exists_find?_answer_iff (t : FieldNames) (d : Demand) (source : SourceName) :
    (∃ name, (t.answer d).2.find? source = some name)
      ↔ (∃ name, t.find? source = some name) ∨ source = d.source := by
  by_cases hsource : source = d.source
  · subst hsource
    exact ⟨fun _ => Or.inr rfl, fun _ => ⟨_, t.find?_answer_self d⟩⟩
  · refine ⟨fun ⟨name, hname⟩ => Or.inl ⟨name, ?_⟩, fun h => ?_⟩
    · rw [answer_eq] at hname
      unfold Table.assign at hname
      split at hname
      · exact hname
      · -- the new entry is that of another source name
        rw [Table.find?, List.lookup_cons, beq_false_of_ne hsource] at hname
        exact hname
    · obtain ⟨name, hname⟩ := h.resolve_right hsource
      exact ⟨name, find?_answer hname d⟩

/-! ## The invariant -/

/-- **A table that keeps to what was demanded.** -/
structure KeepsTo (t : FieldNames) (demanded : List SourceName) : Prop extends t.Faithful where
  /-- The source names that have a name are those that one was demanded
  for. -/
  named : ∀ source, (∃ name, t.find? source = some name) ↔ source ∈ demanded

theorem keepsTo_empty : KeepsTo Table.empty [] :=
  ⟨Table.faithful_empty, fun _ => ⟨fun ⟨_, h⟩ => (nomatch h), fun h => (nomatch h)⟩⟩

namespace KeepsTo

variable {t : FieldNames} {demanded : List SourceName} (h : t.KeepsTo demanded)

include h

/-- **One step.** -/
theorem step (s : Step) : (t.step s).KeepsTo (recorded demanded s) := by
  cases s with
  | clear => exact keepsTo_empty
  | demand d =>
    refine ⟨?_, fun source => ?_⟩
    · rw [FieldNames.step, answer_eq]
      exact h.toFaithful.assign d.source d.base
    · rw [FieldNames.step, exists_find?_answer_iff, h.named, recorded, List.mem_append,
        List.mem_singleton]

/-- **Several steps.** -/
theorem after (steps : List Step) : (t.after steps).KeepsTo (steps.foldl recorded demanded) := by
  induction steps generalizing t demanded with
  | nil => exact h
  | cons s ss ih => exact ih (h.step s)

/-- **Two demands are answered with one name** exactly if they are for one
source name. -/
theorem answer_eq_iff (d d' : Demand) (between : List Demand) :
    (((t.answer d).2.after (between.map Step.demand)).answer d').1 = (t.answer d).1
      ↔ d'.source = d.source := by
  have hfirst := find?_answers (t.find?_answer_self d) between
  have hbetween := (h.step (.demand d)).after (between.map Step.demand)
  constructor
  · intro heq
    -- after the second demand both source names have the name
    have hlast := (hbetween.step (.demand d')).toFaithful
    have hsecond := find?_answer_self ((t.answer d).2.after (between.map Step.demand)) d'
    rw [heq] at hsecond
    exact hlast.source_eq hsecond (find?_answer hfirst d')
  · intro heq
    rw [← heq] at hfirst
    exact answer_of_find? hfirst

/-- **A source name that is new** receives the base, or the base with the
least positive number behind it that no source name has. -/
theorem answer_of_not_mem {d : Demand} (hd : d.source ∉ demanded) :
    ¬ t.Held d.base ∧ (t.answer d).1 = d.base
    ∨ t.Held d.base ∧ ∃ k, 0 < k ∧ (t.answer d).1 = d.base ++ "_" ++ toString k
      ∧ ¬ t.Held (d.base ++ "_" ++ toString k)
      ∧ ∀ j, 0 < j → j < k → t.Held (d.base ++ "_" ++ toString j) := by
  have hnone : t.find? d.source = none := by
    rw [Option.eq_none_iff_forall_ne_some]
    exact fun name hname => hd ((h.named _).mp ⟨name, hname⟩)
  have hanswer : (t.answer d).1 = firstFree "_" t.taken d.base := by
    rw [answer_eq, Table.assign, hnone]
  have hheld : ∀ name, name ∈ t.taken ↔ t.Held name := fun _ => h.mem_taken_iff
  rw [hanswer]
  simp only [← hheld]
  exact firstFree_cases "_" t.taken d.base

end KeepsTo

/-- **A table that names what was demanded**, each source name with a name
of its own. -/
structure Names (t : FieldNames) (demanded : List SourceName) : Prop
    extends t.KeepsTo demanded where
  /-- The taken names are those that source names have. -/
  taken_iff : ∀ name, name ∈ t.taken ↔ t.Held name
  /-- What has a name keeps it: it is the answer to every later demand. -/
  stays : ∀ source name, t.find? source = some name → ∀ (between : List Demand) (d : Demand),
    d.source = source → ((t.after (between.map Step.demand)).answer d).1 = name
  /-- Two demands are answered with one name exactly if they are for one
  source name, whatever is demanded between them. -/
  apart : ∀ (d d' : Demand) (between : List Demand),
    (((t.answer d).2.after (between.map Step.demand)).answer d').1 = (t.answer d).1
      ↔ d'.source = d.source
  /-- A source name that is new receives its base if no source name has it,
  else the base with the least positive number behind it that none has. -/
  new : ∀ d : Demand, d.source ∉ demanded →
    ¬ t.Held d.base ∧ (t.answer d).1 = d.base
    ∨ t.Held d.base ∧ ∃ k, 0 < k ∧ (t.answer d).1 = d.base ++ "_" ++ toString k
      ∧ ¬ t.Held (d.base ++ "_" ++ toString k)
      ∧ ∀ j, 0 < j → j < k → t.Held (d.base ++ "_" ++ toString j)

/-- **Names stay with their source names**, whatever the steps. -/
theorem names_after (steps : List Step) :
    (after Table.empty steps).Names (demandedIn steps) := by
  have h : (after Table.empty steps).KeepsTo (demandedIn steps) := keepsTo_empty.after steps
  refine ⟨h, fun _ => h.mem_taken_iff, fun source name hname between d hd => ?_, h.answer_eq_iff,
    fun _ => h.answer_of_not_mem⟩
  subst hd
  exact answer_of_find? (find?_answers hname between)

/-- A name that was made with a number can be what another source name
asks for. -/
example :
    let t := after Table.empty [.demand (.field (codePoints "x")), .demand (.field (codePoints "_x"))]
    t.Held "x_1" ∧ (t.answer (.field (codePoints "x_1"))).1 = "x_1_1" :=
  ⟨⟨codePoints "_x", by decide +kernel⟩, by decide +kernel⟩

end TypedTraffic.Naming.FieldNames
