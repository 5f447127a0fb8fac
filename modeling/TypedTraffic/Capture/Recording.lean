import TypedTraffic.Capture.Document
import TypedTraffic.Ordered
import TypedTraffic.Text.Half

/-!
# Recordings

A capture is read from a document whose strings may hold halves of
surrogate pairs. Its texts hold characters that stand in for them, which
are chosen so that no string of the document has them. A **recording** is
the capture together with its stand-ins.
-/

namespace TypedTraffic

open Text

namespace Json

mutual

/-- The code points of the strings of a value. -/
def points : Json → List CodePoint
  | .string points => points
  | .array items => itemsPoints items
  | .object members => membersPoints members
  | .null => []
  | .bool _ => []
  | .number _ => []
  termination_by structural value => value

/-- The code points of the strings of some items. -/
def itemsPoints : List Json → List CodePoint
  | [] => []
  | item :: items => item.points ++ itemsPoints items
  termination_by structural items => items

/-- The code points of the strings of some members, keys aside. -/
def membersPoints : List (List CodePoint × Json) → List CodePoint
  | [] => []
  | (_, value) :: members => value.points ++ membersPoints members
  termination_by structural members => members

end

theorem mem_itemsPoints {p : CodePoint} {items : List Json} :
    p ∈ itemsPoints items ↔ ∃ item ∈ items, p ∈ item.points := by
  induction items with
  | nil => simp [itemsPoints]
  | cons item items ih => simp [itemsPoints, ih]

theorem mem_membersPoints {p : CodePoint} {members : List (List CodePoint × Json)} :
    p ∈ membersPoints members ↔ ∃ member ∈ members, p ∈ member.2.points := by
  induction members with
  | nil => simp [membersPoints]
  | cons member members ih => simp [membersPoints, ih]

mutual

/-- A value with stand-ins in its strings. -/
def disguised (standIns : StandIns) : Json → Json
  | .string points => .string (points.map standIns.place)
  | .array items => .array (disguisedItems standIns items)
  | .object members => .object (disguisedMembers standIns members)
  | .null => .null
  | .bool value => .bool value
  | .number value => .number value
  termination_by structural value => value

/-- Items with stand-ins in their strings. -/
def disguisedItems (standIns : StandIns) : List Json → List Json
  | [] => []
  | item :: items => item.disguised standIns :: disguisedItems standIns items
  termination_by structural items => items

/-- Members with stand-ins in the strings of their values. -/
def disguisedMembers (standIns : StandIns) :
    List (List CodePoint × Json) → List (List CodePoint × Json)
  | [] => []
  | (key, value) :: members => (key, value.disguised standIns) :: disguisedMembers standIns members
  termination_by structural members => members

end

/-- **The stand-ins of a document**, one for each half of a surrogate pair
in its strings. -/
def standIns (document : Json) : StandIns :=
  let used := document.points
  standInsFrom used privateChars (Ordered.distinct (used.filter isHalf))

/-- Without halves there are no stand-ins. -/
theorem standIns_eq_nil {document : Json} (h : ∀ p ∈ document.points, isHalf p = false) :
    document.standIns = [] := by
  have hnone : document.points.filter isHalf = [] := by
    rw [List.filter_eq_nil_iff]
    intro p hp
    rw [h p hp]
    exact Bool.false_ne_true
  rw [standIns, hnone, Ordered.distinct, standInsFrom]

end Json

/-- **A capture and the stand-ins in its texts.** -/
structure Recording where
  /-- The capture. -/
  capture : Capture
  /-- What stands in for halves of surrogate pairs. -/
  standIns : StandIns
  /-- It is left to private use. -/
  reserved : ∀ standIn ∈ standIns, standIn.2 ∈ privateChars
  deriving DecidableEq

/-- **The recording of a document.** -/
def Recording.ofDocument (document : Json) : Schema.Checked Recording :=
  let standIns := document.standIns
  (Capture.ofDocument (document.disguised standIns)).map fun capture =>
    ⟨capture, standIns, fun _ h => (mem_standInsFrom h).1⟩

theorem Recording.standIns_of_ofDocument {document : Json} {recording : Recording}
    (h : ofDocument document = .ok recording) : recording.standIns = document.standIns := by
  simp only [ofDocument] at h
  cases hcapture : Capture.ofDocument (document.disguised document.standIns) with
  | ok capture =>
    rw [hcapture] at h
    cases h
    rfl
  | error errors =>
    rw [hcapture] at h
    cases h

/-- **Load a recording**, with the outline checked first if `outline` is
set. -/
def Recording.load (outline : Bool) (source : String) : Except Capture.LoadError Recording :=
  match Json.parse source with
  | .error (.malformed kind line column offset) => .error (.notJson kind line column offset)
  | .error e => .error (.limit e)
  | .ok document =>
    match if outline then Capture.outlineFault? document else none with
    | some fault => .error (.outline fault)
    | none =>
      match ofDocument document with
      | .ok recording => .ok recording
      | .error errors => .error (.fields errors)

/-- **Load a capture.** -/
def Capture.load (outline : Bool) (source : String) : Except Capture.LoadError Capture :=
  match Recording.load outline source with
  | .ok recording => .ok recording.capture
  | .error e => .error e

end TypedTraffic
