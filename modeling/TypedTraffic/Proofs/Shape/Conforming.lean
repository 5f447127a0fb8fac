import TypedTraffic.Proofs.Naming.Assigned
import TypedTraffic.Proofs.Shape.Fitting
import TypedTraffic.Proofs.Shape.Laid

/-!
# What fits a shape conforms to its layout

A value **conforms** to a type over some interfaces when its objects have
the fields of their interfaces, with the names of the fields read back to
keys: every field that is not optional and no key without a field. Null
conforms to every type and everything to `any`.

Whatever fits a shape conforms to the type it is laid out as
(`typeOf_conforms`), provided that records which share an interface are
declared alike. The layout takes the fingerprint of a list of fields for
the list, so the proviso is that no two of the lists it comes across have
one fingerprint.
-/

namespace TypedTraffic

open Naming Shape

/-- **A value conforms to a type** over some interfaces; `read` takes the
name of a field back to its key. -/
inductive Conforms (read : String → Option SourceName) (declared : List Interface) :
    Json → TypeExpr → Prop
  /-- Null conforms to every type. -/
  | null (type : TypeExpr) : Conforms read declared .null type
  /-- Everything conforms to `any`. -/
  | any (value : Json) : Conforms read declared value .any
  /-- Truth values. -/
  | boolean (b : Bool) : Conforms read declared (.bool b) .boolean
  /-- Numbers. -/
  | number (n : Json.Number) : Conforms read declared (.number n) .number
  /-- Strings. -/
  | string (s : List CodePoint) : Conforms read declared (.string s) .string
  /-- A list, whose elements are all of the element type. -/
  | array {items : List Json} {element : TypeExpr}
    (elements : ∀ v ∈ items, Conforms read declared v element) :
    Conforms read declared (.array items) (.array element)
  /-- An object with all fields of its interface that are not optional,
  no key without a field, and values of the types of their fields. -/
  | object {members : Object} {i : Interface}
    (found : declared.find? (fun j => j.name == i.name) = some i)
    (required : ∀ f ∈ i.fields, f.optional = false →
      ∃ key v, read f.name = some key ∧ (key, v) ∈ members)
    (known : ∀ m ∈ members, ∃ f ∈ i.fields, read f.name = some m.1)
    (values : ∀ m ∈ members, ∀ f ∈ i.fields, read f.name = some m.1 →
      Conforms read declared m.2 f.type) :
    Conforms read declared (.object members) (.named i.name)

/-- **A value conforms to a definition.** -/
def Definition.Admits (read : String → Option SourceName) (value : Json) : Definition → Prop
  | .interfaces root auxiliary => Conforms read (root :: auxiliary) value (.named root.name)
  | .alias _ .any => True
  | .alias _ .textRecord => ∃ members, value = .object members ∧ ∀ m ∈ members, ∃ s, m.2 = .string s

namespace Layout

mutual

/-- **The lists of fields that the layout of a shape comes across**, one
for each record, inner records first. -/
def listsOf (l : Layout) (key : SourceName) : Shape → List Interface → List (List Field)
  | .any, _ => []
  | .boolean, _ => []
  | .number, _ => []
  | .string, _ => []
  | .array element, declared => l.listsOf key element declared
  | .record fields, declared => l.listsOfFields fields declared ++ [(l.fieldsOf fields declared).1]
  termination_by structural shape => shape

/-- The lists of fields that the layout of the fields of a record comes
across. -/
def listsOfFields (l : Layout) :
    List (SourceName × Bool × Shape) → List Interface → List (List Field)
  | [], _ => []
  | (key, _, shape) :: fields, declared =>
    l.listsOf key shape declared ++ l.listsOfFields fields (l.typeOf key shape declared).2
  termination_by structural fields => fields

end

/-- **Lists of fields that their fingerprints tell apart.** -/
def ToldApart (lists : List (List Field)) : Prop :=
  ∀ fs ∈ lists, ∀ gs ∈ lists, fieldsToken fs = fieldsToken gs → fs = gs

/-- The interfaces `all` begin with a root and the auxiliary interfaces
that are declared so far. -/
def BeginsWith (l : Layout) (declared all : List Interface) : Prop :=
  ∃ (root : Interface) (rest : List Interface),
    root.name = l.root ∧ all = root :: (declared ++ rest)

theorem BeginsWith.mono {l : Layout} {declared declared' all : List Interface}
    (h : l.BeginsWith declared' all) (hp : declared <+: declared') : l.BeginsWith declared all := by
  obtain ⟨root, rest, hroot, rfl⟩ := h
  obtain ⟨more, rfl⟩ := hp
  exact ⟨root, more ++ rest, hroot, by rw [List.append_assoc]⟩

/-- What is declared is found by its name. -/
theorem BeginsWith.find? {l : Layout} {declared all : List Interface}
    (h : l.BeginsWith declared all) (hinv : l.Invariant declared) {i : Interface}
    (hi : i ∈ declared) : all.find? (fun j => j.name == i.name) = some i := by
  obtain ⟨root, rest, hroot, rfl⟩ := h
  have hnodup : ((root :: declared).map Interface.name).Nodup := by
    rw [List.map_cons, hroot]
    exact hinv.nodup
  have hfind := find?_eq_some_of_nodup hnodup (List.mem_cons_of_mem root hi)
  rw [← List.cons_append, List.find?_append, hfind]
  rfl

section Conforming

variable {l : Layout} {read : String → Option SourceName} {lists : List (List Field)}

/-- **Fields that go with the fields of a record**: the names are those of
the keys, and what fits the shape of a key conforms to the type of its
field. -/
structure GoWith (l : Layout) (read : String → Option SourceName) (all : List Interface)
    (fields : List (SourceName × Bool × Shape)) (fs : List Field) : Prop where
  /-- Every field is that of a key. -/
  key : ∀ f ∈ fs, ∃ g ∈ fields, f.name = l.fieldName g.1 ∧ f.optional = g.2.1
    ∧ ∀ v, Fits v g.2.2 → Conforms read all v f.type
  /-- Every key has a field. -/
  field : ∀ g ∈ fields, ∃ f ∈ fs, f.name = l.fieldName g.1

/-- An object that fits a record conforms to an interface whose fields go
with it. -/
theorem GoWith.conforms {all : List Interface} {fields : List (SourceName × Bool × Shape)}
    {i : Interface} (h : l.GoWith read all fields i.fields)
    (hread : ∀ g ∈ fields, read (l.fieldName g.1) = some g.1)
    (hfound : all.find? (fun j => j.name == i.name) = some i) {members : Object}
    (hfits : Fits (.object members) (.record fields)) :
    Conforms read all (.object members) (.named i.name) := by
  cases hfits with
  | record required known values =>
    refine Conforms.object hfound (fun f hf hoptional => ?_) (fun m hm => ?_)
      (fun m hm f hf hkey => ?_)
    · obtain ⟨g, hg, hname, hopt, -⟩ := h.key f hf
      obtain ⟨v, hv⟩ := required g hg (hopt ▸ hoptional)
      exact ⟨g.1, v, by rw [hname, hread g hg], hv⟩
    · obtain ⟨g, hg, hkey⟩ := known m hm
      obtain ⟨f, hf, hname⟩ := h.field g hg
      exact ⟨f, hf, by rw [hname, hread g hg, hkey]⟩
    · obtain ⟨g, hg, hname, -, htype⟩ := h.key f hf
      rw [hname, hread g hg] at hkey
      exact htype m.2 (values m hm g hg (Option.some.inj hkey))

theorem mem_keys_of_mem {fields : List (SourceName × Bool × Shape)}
    {g : SourceName × Bool × Shape} (hg : g ∈ fields) : g.1 ∈ keysOfFields fields := by
  induction fields with
  | nil => exact absurd hg List.not_mem_nil
  | cons field fields ih =>
    rw [keysOfFields]
    rcases List.mem_cons.mp hg with rfl | hg
    · exact List.mem_cons_self
    · exact List.mem_cons_of_mem _ (List.mem_append_right _ (ih hg))

/-- The interface of a record is declared alike, and it is found by its
name. -/
theorem declare_conforms (hlists : ToldApart lists) {declared : List Interface}
    (hinv : l.Invariant declared) (hin : ∀ i ∈ declared, i.fields ∈ lists)
    {fs : List Field} (hfs : fs ∈ lists) (hover : ∀ f ∈ fs, l.Over declared f) (key : SourceName) :
    (∀ i ∈ (l.declare key fs declared).2, i.fields ∈ lists)
      ∧ ∀ all, l.BeginsWith (l.declare key fs declared).2 all →
          ∃ i, (l.declare key fs declared).1 = .named i.name ∧ i.fields = fs
            ∧ all.find? (fun j => j.name == i.name) = some i := by
  have hinv' := (hinv.declare hover key).1
  rcases declare_eq l key fs declared with ⟨i, hi, htoken, heq⟩ | heq
  · rw [heq] at hinv' ⊢
    exact ⟨hin, fun all hall =>
      ⟨i, rfl, hlists _ (hin i hi) _ hfs htoken, hall.find? hinv hi⟩⟩
  · rw [heq] at hinv' ⊢
    refine ⟨fun i hi => ?_, fun all hall => ?_⟩
    · rcases List.mem_append.mp hi with hi | hi
      · exact hin i hi
      · rw [List.mem_singleton.mp hi]
        exact hfs
    · exact ⟨⟨l.auxiliaryName key declared, fs⟩, rfl, rfl,
        hall.find? hinv' (List.mem_append_right _ List.mem_cons_self)⟩

mutual

/-- **What fits a shape conforms to the type it is laid out as.** -/
theorem typeOf_conforms (hlists : ToldApart lists) {declared : List Interface}
    (hinv : l.Invariant declared) (hin : ∀ i ∈ declared, i.fields ∈ lists)
    (key : SourceName) (shape : Shape)
    (hread : ∀ k ∈ shape.keys, read (l.fieldName k) = some k)
    (hmet : ∀ fs ∈ l.listsOf key shape declared, fs ∈ lists) :
    (∀ i ∈ (l.typeOf key shape declared).2, i.fields ∈ lists)
      ∧ ∀ all, l.BeginsWith (l.typeOf key shape declared).2 all → ∀ v, Fits v shape →
          Conforms read all v (l.typeOf key shape declared).1 := by
  cases shape with
  | any => exact ⟨hin, fun all _ v _ => Conforms.any v⟩
  | boolean =>
    refine ⟨hin, fun all _ v hv => ?_⟩
    cases hv with
    | null => exact Conforms.null _
    | boolean b => exact Conforms.boolean b
  | number =>
    refine ⟨hin, fun all _ v hv => ?_⟩
    cases hv with
    | null => exact Conforms.null _
    | number n => exact Conforms.number n
  | string =>
    refine ⟨hin, fun all _ v hv => ?_⟩
    cases hv with
    | null => exact Conforms.null _
    | string s => exact Conforms.string s
  | array element =>
    obtain ⟨hin', helement⟩ := typeOf_conforms hlists hinv hin key element hread hmet
    refine ⟨hin', fun all hall v hv => ?_⟩
    cases hv with
    | null => exact Conforms.null _
    | array elements => exact Conforms.array fun e he => helement all hall e (elements e he)
  | record fields =>
    rw [listsOf] at hmet
    obtain ⟨hin', hgo⟩ := fieldsOf_conforms hlists hinv hin fields hread
      fun fs hfs => hmet fs (List.mem_append_left _ hfs)
    obtain ⟨hinv', hover⟩ := hinv.fieldsOf fields
    obtain ⟨hin'', hdeclared⟩ := declare_conforms hlists hinv' hin'
      (hmet _ (List.mem_append_right _ List.mem_cons_self)) hover key
    refine ⟨hin'', fun all hall v hv => ?_⟩
    -- the interface of the record is found by its name, whatever is declared later
    obtain ⟨i, htype, hfields, hfound⟩ := hdeclared all hall
    have hgo' := hgo all (hall.mono (prefix_declare l key _ _))
    rw [← hfields] at hgo'
    show Conforms read all v (l.declare key _ _).1
    rw [htype]
    cases hv with
    | null => exact Conforms.null _
    | record required known values =>
      exact hgo'.conforms (fun g hg => hread _ (mem_keys_of_mem hg)) hfound
        (Fits.record required known values)

/-- The fields of a record go with it. -/
theorem fieldsOf_conforms (hlists : ToldApart lists) {declared : List Interface}
    (hinv : l.Invariant declared) (hin : ∀ i ∈ declared, i.fields ∈ lists)
    (fields : List (SourceName × Bool × Shape))
    (hread : ∀ k ∈ keysOfFields fields, read (l.fieldName k) = some k)
    (hmet : ∀ fs ∈ l.listsOfFields fields declared, fs ∈ lists) :
    (∀ i ∈ (l.fieldsOf fields declared).2, i.fields ∈ lists)
      ∧ ∀ all, l.BeginsWith (l.fieldsOf fields declared).2 all →
          l.GoWith read all fields (l.fieldsOf fields declared).1 := by
  cases fields with
  | nil =>
    exact ⟨hin, fun all _ => ⟨fun f hf => absurd hf List.not_mem_nil,
      fun g hg => absurd hg List.not_mem_nil⟩⟩
  | cons field fields =>
    rw [listsOfFields] at hmet
    rw [keysOfFields] at hread
    obtain ⟨hin', hfirst⟩ := typeOf_conforms hlists hinv hin field.1 field.2.2
      (fun k hk => hread k (List.mem_cons_of_mem _ (List.mem_append_left _ hk)))
      (fun fs hfs => hmet fs (List.mem_append_left _ hfs))
    obtain ⟨hin'', hrest⟩ := fieldsOf_conforms hlists (hinv.typeOf field.1 field.2.2).1 hin' fields
      (fun k hk => hread k (List.mem_cons_of_mem _ (List.mem_append_right _ hk)))
      (fun fs hfs => hmet fs (List.mem_append_right _ hfs))
    refine ⟨hin'', fun all hall => ⟨fun f hf => ?_, fun g hg => ?_⟩⟩
    · rcases List.mem_cons.mp hf with rfl | hf
      · exact ⟨field, List.mem_cons_self, rfl, rfl,
          hfirst all (hall.mono (prefix_fieldsOf l fields _))⟩
      · obtain ⟨g, hg, hkey⟩ := (hrest all hall).key f hf
        exact ⟨g, List.mem_cons_of_mem _ hg, hkey⟩
    · rcases List.mem_cons.mp hg with rfl | hg
      · exact ⟨_, List.mem_cons_self, rfl⟩
      · obtain ⟨f, hf, hname⟩ := (hrest all hall).field g hg
        exact ⟨f, List.mem_cons_of_mem _ hf, hname⟩

end

/-- **An object that fits a record conforms to the definition** that the
record is laid out as. -/
theorem definition_admits {fields : List (SourceName × Bool × Shape)}
    (hlists : ToldApart (l.listsOfFields fields []))
    (hread : ∀ k ∈ keysOfFields fields, read (l.fieldName k) = some k) {object : Object}
    (hfits : Fits (.object object) (.record fields)) :
    (l.definition fields).Admits read (.object object) := by
  obtain ⟨-, hgo⟩ := fieldsOf_conforms hlists (invariant_nil l)
    (fun i hi => absurd hi List.not_mem_nil) fields hread fun fs hfs => hfs
  set root : Interface := ⟨l.root, (l.fieldsOf fields []).1⟩
  have hall : l.BeginsWith (l.fieldsOf fields []).2 (root :: (l.fieldsOf fields []).2) :=
    ⟨root, [], rfl, by rw [List.append_nil]⟩
  have hfound : (root :: (l.fieldsOf fields []).2).find? (fun j => j.name == root.name)
      = some root := List.find?_cons_of_pos (by simp)
  exact GoWith.conforms (i := root) (hgo _ hall) (fun g hg => hread _ (mem_keys_of_mem hg)) hfound
    hfits

end Conforming

end Layout

end TypedTraffic
