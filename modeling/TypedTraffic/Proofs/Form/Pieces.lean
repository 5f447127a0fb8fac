import Mathlib.Data.List.TakeWhile
import TypedTraffic.Proofs.Form.Decoded
import TypedTraffic.Proofs.Sample.Reading

/-!
# The pieces of a form

A form is cut at its ampersands. In strict reading every piece has to have
an equals sign; in lenient reading empty pieces are passed over, and there
has to be another. Each piece that is left gives one field: its key is the
text before its first equals sign and its value the text behind, both
without their encoding (`pairs_eq`).

So a form has an interface exactly if it is not refused
(`Sample.formInterface_eq`, `Sample.exists_formInterface_eq_error`).
-/

namespace TypedTraffic

open Text

namespace Form

/-- **The key of a piece.** -/
def keyOf (piece : List Char) : String :=
  String.ofList (decoded (piece.takeWhile (· ≠ '=')))

/-- **The value of a piece**, which is empty if there is no equals sign. -/
def valueOf (piece : List Char) : String :=
  String.ofList (decoded (piece.dropWhile (· ≠ '=')).tail)

/-- **The pieces of a form that give a field.** -/
def pieces : Mode → String → List (List Char)
  | .strict, text => split '&' text.toList
  | .lenient, text => (split '&' text.toList).filter (· ≠ [])

/-- **A form that is refused**: some piece has no equals sign, or, in
lenient reading, every piece is empty. -/
def Refused : Mode → String → Prop
  | .strict, text => ∃ piece ∈ split '&' text.toList, '=' ∉ piece
  | .lenient, text => ∀ piece ∈ split '&' text.toList, piece = []

/-! ## One piece -/

theorem pair?_of_mem {mode : Mode} {piece : List Char} (h : '=' ∈ piece) :
    pair? mode piece = .ok (some (keyOf piece, valueOf piece)) := by
  rw [pair?, cut_eq, if_pos h]
  simp only [unescape_eq]
  rfl

theorem pair?_strict {piece : List Char} (h : '=' ∉ piece) :
    pair? .strict piece = .error (.badField (String.ofList piece)) := by
  rw [pair?, cut_eq, if_neg h]

theorem pair?_lenient (piece : List Char) :
    pair? .lenient piece
      = .ok (if piece = [] then none else some (keyOf piece, valueOf piece)) := by
  by_cases h : '=' ∈ piece
  · rw [pair?_of_mem h, if_neg (List.ne_nil_of_mem h)]
  · have hrest : piece.dropWhile (· ≠ '=') = [] := by
      refine List.dropWhile_eq_nil_iff.mpr fun c hc => ?_
      simpa using fun heq : c = '=' => h (heq ▸ hc)
    rw [pair?, cut_eq, if_neg h]
    simp only [unescape_eq, List.isEmpty_iff]
    split
    · rfl
    · rw [valueOf, hrest]
      rfl

/-! ## All pieces -/

theorem pairsOf_lenient (ps : List (List Char)) :
    pairsOf .lenient ps
      = .ok ((ps.filter (· ≠ [])).map fun piece => (keyOf piece, valueOf piece)) := by
  induction ps with
  | nil => rfl
  | cons piece ps ih =>
    rw [pairsOf, pair?_lenient, ih]
    by_cases h : piece = [] <;> simp [h]

theorem pairsOf_strict {ps : List (List Char)} (h : ∀ piece ∈ ps, '=' ∈ piece) :
    pairsOf .strict ps = .ok (ps.map fun piece => (keyOf piece, valueOf piece)) := by
  induction ps with
  | nil => rfl
  | cons piece ps ih =>
    obtain ⟨hpiece, hps⟩ := List.forall_mem_cons.mp h
    rw [pairsOf, pair?_of_mem hpiece, ih hps]
    rfl

theorem exists_pairsOf_eq_error {ps : List (List Char)} (h : ∃ piece ∈ ps, '=' ∉ piece) :
    ∃ e, pairsOf .strict ps = .error e := by
  induction ps with
  | nil => exact absurd h (by simp)
  | cons piece ps ih =>
    rw [pairsOf]
    by_cases hpiece : '=' ∈ piece
    · obtain ⟨e, he⟩ := ih (by simpa [hpiece] using h)
      exact ⟨e, by rw [pair?_of_mem hpiece, he]⟩
    · exact ⟨_, by rw [pair?_strict hpiece]⟩

/-- An empty text is refused: its one piece is empty. -/
theorem refused_of_isEmpty {text : String} (h : text.isEmpty = true) (mode : Mode) :
    Refused mode text := by
  obtain rfl : text = "" := String.isEmpty_iff.mp h
  cases mode with
  | strict => exact ⟨[], by simp [split, splitWhere], List.not_mem_nil⟩
  | lenient => exact fun piece hpiece => by simpa [split, splitWhere] using hpiece

/-- **The fields of a form that is not refused**: one for each piece. -/
theorem pairs_eq {mode : Mode} {text : String} (h : ¬ Refused mode text) :
    pairs mode text = .ok ((pieces mode text).map fun piece => (keyOf piece, valueOf piece))
      ∧ pieces mode text ≠ [] := by
  rw [pairs, if_neg fun hempty => h (refused_of_isEmpty hempty mode)]
  cases mode with
  | strict =>
    refine ⟨pairsOf_strict fun piece hpiece => ?_, split_ne_nil _ _⟩
    by_contra hnone
    exact h ⟨piece, hpiece, hnone⟩
  | lenient =>
    refine ⟨pairsOf_lenient _, fun hnil => h fun piece hpiece => ?_⟩
    have hall := List.filter_eq_nil_iff.mp hnil piece hpiece
    simpa using hall

/-- **A form that is refused** has no fields. -/
theorem pairs_of_refused {mode : Mode} {text : String} (h : Refused mode text) :
    pairs mode text = .ok [] ∨ ∃ e, pairs mode text = .error e := by
  rw [pairs]
  split
  · exact Or.inl rfl
  · cases mode with
    | strict => exact Or.inr (exists_pairsOf_eq_error h)
    | lenient =>
      have hnone : (split '&' text.toList).filter (· ≠ []) = [] :=
        List.filter_eq_nil_iff.mpr fun piece hpiece => by simpa using h piece hpiece
      left
      rw [pairsOf_lenient, hnone]
      rfl

end Form

namespace Sample

open Form

variable {mode : Form.Mode} {text : String}

/-- The keys of some pieces, as they are named. -/
def keysOfPieces (ps : List (List Char)) : List Naming.SourceName :=
  ps.map fun piece => codePoints (keyOf piece)

/-- The fields of a form by name, from its pieces. -/
def fieldsOfPieces (fieldName : Naming.SourceName → String) (ps : List (List Char)) : List Field :=
  ((ps.map fun piece => (keyOf piece, valueOf piece)).foldl (Reading.putPair fieldName) []).map
    fun (field, type) => ⟨field, type, false⟩

/-- **The interface of a form that is not refused.** -/
theorem formInterface_eq (h : ¬ Refused mode text) (name : String) (names : Naming.FieldNames) :
    formInterface mode name text names
      = .ok (⟨name, fieldsOfPieces (names.nameFields (keysOfPieces (pieces mode text))).fieldName
          (pieces mode text)⟩, names.nameFields (keysOfPieces (pieces mode text))) := by
  obtain ⟨hpairs, hne⟩ := pairs_eq h
  obtain ⟨piece, ps, hpieces⟩ := List.exists_cons_of_ne_nil hne
  rw [formInterface, hpairs, hpieces]
  simp only [List.map_cons, formFields_eq]
  rw [← List.map_cons (f := fun piece => (keyOf piece, valueOf piece))]
  simp only [Reading.keys, List.map_map, Function.comp_def, fieldsOfPieces, keysOfPieces,
    List.map_cons]

/-- **A form that is refused has no interface.** -/
theorem exists_formInterface_eq_error (h : Refused mode text) (name : String)
    (names : Naming.FieldNames) : ∃ e, formInterface mode name text names = .error e := by
  unfold formInterface
  rcases pairs_of_refused h with hnone | ⟨e, he⟩
  · rw [hnone]
    exact ⟨.noFields, rfl⟩
  · rw [he]
    exact ⟨e, rfl⟩

end Sample

end TypedTraffic
