import Mathlib.Data.List.TakeWhile
import TypedTraffic.Capture.Recording
import TypedTraffic.Client.Module

/-!
# Texts that are not encoded

A text has bytes unless a character stands in it for half of a surrogate
pair. Since stand-ins are not used otherwise, a text of a document has bytes
exactly if there is no half in it that something stands in for
(`isSome_fault?_textOf_iff`).

Captured text gets into the text of a module, so a half in the value of a
header that is sent along leaves the whole module without bytes
(`isSome_fault?_moduleText`).
-/

namespace TypedTraffic

open Text

/-! ## Texts of a document -/

/-- **Stand-ins are not used otherwise**: a code point of a document has a
text in which something stands in for a half exactly if it has a stand-in. -/
theorem Json.isSome_half?_place_iff {document : Json} {p : CodePoint} (hp : p ∈ document.points) :
    (document.standIns.half? (document.standIns.place p).toChar).isSome = true
      ↔ (document.standIns.lookup p).isSome = true := by
  rw [Text.StandIns.isSome_half?_iff, StandIns.place]
  cases hlookup : document.standIns.lookup p with
  | some c =>
    simp only [CodePoint.toChar_ofChar, Option.isSome_some, iff_true]
    obtain ⟨before, after, hsplit, -⟩ := List.lookup_eq_some_iff.mp hlookup
    exact ⟨p, hsplit ▸ List.mem_append_right _ List.mem_cons_self⟩
  | none =>
    simp only [Option.isSome_none, Bool.false_eq_true, iff_false, not_exists]
    intro half hmem
    obtain ⟨hprivate, hunused⟩ := mem_standInsFrom hmem
    cases hhalf : isHalf p with
    | false => exact hunused (by rwa [CodePoint.ofChar_toChar (isValidChar_of_isHalf hhalf)])
    | true =>
      rw [toChar_of_isHalf hhalf] at hprivate
      exact replacement_notMem_privateChars hprivate

/-- **A text of a document has no bytes** exactly if something stands in it
for a half. -/
theorem Json.isSome_fault?_textOf_iff {document : Json} {points : List CodePoint}
    (hsub : ∀ p ∈ points, p ∈ document.points) :
    (document.standIns.fault? (textOf (points.map document.standIns.place))).isSome = true
      ↔ ∃ p ∈ points, (document.standIns.lookup p).isSome = true := by
  rw [Text.StandIns.isSome_fault?_iff, textOf, String.toList_ofList, List.map_map]
  simp only [List.mem_map, Function.comp_apply, exists_exists_and_eq_and]
  exact exists_congr fun p => and_congr_right fun hp => isSome_half?_place_iff (hsub p hp)

/-! ## Modules -/

namespace Client

/-- Every line of a text is in it. -/
theorem mem_toList_intercalate {c : Char} {line : String} {lines : List String}
    (hline : line ∈ lines) (hc : c ∈ line.toList) : c ∈ ("\n".intercalate lines).toList := by
  induction lines with
  | nil => exact absurd hline List.not_mem_nil
  | cons first lines ih =>
    cases lines with
    | nil =>
      rw [String.intercalate_singleton]
      rwa [List.mem_singleton.mp hline] at hc
    | cons second lines =>
      rw [String.intercalate_cons_cons, String.toList_append, String.toList_append]
      rcases List.mem_cons.mp hline with rfl | hline
      · exact List.mem_append_left _ (List.mem_append_left _ hc)
      · exact List.mem_append_right _ (ih hline)

/-- Nothing but line ends is dropped at the end of a module. -/
theorem mem_dropEndWhile {p : Char → Bool} {c : Char} {cs : List Char} (hc : c ∈ cs)
    (hp : p c = false) : c ∈ Text.dropEndWhile p cs := by
  rw [Text.dropEndWhile, List.mem_reverse]
  have hmem : c ∈ cs.reverse.takeWhile p ++ cs.reverse.dropWhile p := by
    rwa [List.takeWhile_append_dropWhile, List.mem_reverse]
  refine (List.mem_append.mp hmem).resolve_left fun htaken => ?_
  rw [List.mem_takeWhile_imp htaken] at hp
  cases hp

/-- **What is in the function of a binding is in the module.** -/
theorem mem_toList_moduleText (stamp : String) (definitions : List String)
    {bindings : List Binding} {b : Binding} (hb : b ∈ bindings) {line : String}
    (hline : line ∈ functionLines b) {c : Char} (hc : c ∈ line.toList) (hne : c ≠ '\n') :
    c ∈ (moduleText stamp definitions bindings).toList := by
  have hlines : line ∈ moduleLines stamp definitions bindings :=
    List.mem_append_right _ (List.mem_flatMap.mpr ⟨b, hb, List.mem_append_left _ hline⟩)
  rw [moduleText, String.toList_ofList]
  refine List.mem_append_left _ (mem_dropEndWhile (mem_toList_intercalate hlines hc) ?_)
  simpa using hne

/-- A character that needs no escape is in the line of its header. -/
theorem mem_toList_headerLine {h : Header} {c : Char} (hc : c ∈ h.value.toList)
    (hplain : quotedChar c = [c]) : c ∈ (headerLine h).toList := by
  have hliteral : c ∈ (quotedLiteral h.value).toList := by
    rw [quotedLiteral, String.toList_ofList]
    refine List.mem_append_left _ (List.mem_cons_of_mem _ (List.mem_flatMap.mpr ⟨c, hc, ?_⟩))
    rw [hplain]
    exact List.mem_singleton_self c
  simp [headerLine, hliteral]

/-- **A module with half of a surrogate pair in a header has no bytes.** -/
theorem isSome_fault?_moduleText {standIns : Text.StandIns} (stamp : String)
    (definitions : List String) {bindings : List Binding} {b : Binding} (hb : b ∈ bindings)
    {h : Header} (hh : h ∈ b.headers) {c : Char} (hc : c ∈ h.value.toList)
    (hplain : quotedChar c = [c]) (hhalf : (standIns.half? c).isSome = true) :
    (standIns.fault? (moduleText stamp definitions bindings)).isSome = true := by
  have hline : headerLine h ∈ functionLines b :=
    List.mem_append_left _ (List.mem_append_right _ (List.mem_map_of_mem hh))
  have hne : c ≠ '\n' := by
    rintro rfl
    exact absurd hplain (by decide)
  exact Text.StandIns.isSome_fault?_iff.mpr
    ⟨c, mem_toList_moduleText stamp definitions hb hline (mem_toList_headerLine hc hplain) hne,
      hhalf⟩

end Client

end TypedTraffic
