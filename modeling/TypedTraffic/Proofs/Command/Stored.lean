import TypedTraffic.Command.Files
import TypedTraffic.Ordered

/-!
# What is stored

Storing a file changes nothing but the file and the directories around it:
they are made where nothing was, and everything else stays
(`Files.write_cases`). This holds in every case for the directories, also
when the file is not stored in the end; they are all that is left behind
then.
-/

namespace TypedTraffic.Command

namespace Files

/-! ## Changes -/

/-- **Nothing changes at a place**, unless nothing was there and a directory
is made. -/
def KeptAt (before after : Files) (place : Place) : Prop :=
  after.entryAt? place = before.entryAt? place
    ∨ before.entryAt? place = none ∧ after.entryAt? place = some .directory

/-- **Files to which only directories are added.** -/
def GrowsTo (before after : Files) : Prop := ∀ place, before.KeptAt after place

/-- **A file is stored**: it takes the place of nothing or of a file, and
only directories are added elsewhere. -/
structure Stores (before after : Files) (place : Place) (bytes : List UInt8) : Prop where
  /-- The file is there. -/
  there : after.entryAt? place = some (.file bytes)
  /-- No directory was there. -/
  free : before.entryAt? place ≠ some .directory
  /-- Nothing else changes. -/
  elsewhere : ∀ other ≠ place, before.KeptAt after other

/-- **No file is created, changed or lost.** -/
def KeepsFiles (before after : Files) : Prop :=
  ∀ place bytes, after.entryAt? place = some (.file bytes)
    ↔ before.entryAt? place = some (.file bytes)

theorem GrowsTo.refl (files : Files) : files.GrowsTo files := fun _ => Or.inl rfl

theorem KeptAt.trans {before between after : Files} {place : Place}
    (h : before.KeptAt between place) (h' : between.KeptAt after place) :
    before.KeptAt after place := by
  rcases h with h | ⟨hnone, hmade⟩
  · rwa [KeptAt, ← h]
  · rcases h' with h' | ⟨hnone', -⟩
    · exact Or.inr ⟨hnone, h'.trans hmade⟩
    · rw [hmade] at hnone'
      cases hnone'

theorem GrowsTo.trans {before between after : Files} (h : before.GrowsTo between)
    (h' : between.GrowsTo after) : before.GrowsTo after :=
  fun place => (h place).trans (h' place)

/-- A directory stays where only directories are added. -/
theorem GrowsTo.directory {before after : Files} (h : before.GrowsTo after) {place : Place}
    (hplace : before.entryAt? place = some .directory) :
    after.entryAt? place = some .directory := by
  rcases h place with h | ⟨-, hmade⟩
  · rw [h, hplace]
  · exact hmade

/-! ## One place -/

theorem lookup_set (files : Files) (place : Place) (entry : Entry) (other : Place) :
    (files.set place entry).lookup other
      = if other = place then some entry else files.lookup other := by
  rw [set]
  induction files with
  | nil => exact Ordered.lookup_cons _ _ _
  | cons known files ih =>
    by_cases hknown : known.1 = place
    · rw [List.filter_cons_of_neg (by simpa using hknown), ih, Ordered.lookup_cons, hknown]
      split <;> rfl
    · rw [List.filter_cons_of_pos (by simpa using hknown), List.cons_append, Ordered.lookup_cons,
        Ordered.lookup_cons, ih]
      by_cases hother : other = known.1
      · rw [if_pos hother, if_pos hother, if_neg (hother ▸ hknown)]
      · rw [if_neg hother, if_neg hother]

/-- **What is put at a place is there**, and everything else stays. -/
theorem entryAt?_set {files : Files} {place : Place} (entry : Entry)
    (hfree : files.entryAt? place ≠ some .directory) (other : Place) :
    (files.set place entry).entryAt? other
      = if other = place then some entry else files.entryAt? other := by
  unfold entryAt? at hfree ⊢
  by_cases hfixed : other = rootPlace ∨ other.all (· == "..")
  · have hne : other ≠ place := by
      rintro rfl
      exact hfree (if_pos hfixed)
    rw [if_pos hfixed, if_neg hne, if_pos hfixed]
  · rw [if_neg hfixed, if_neg hfixed, lookup_set]

theorem GrowsTo.set_directory {files : Files} {place : Place} (h : files.entryAt? place = none) :
    files.GrowsTo (files.set place .directory) := by
  intro other
  have hset := entryAt?_set .directory (by rw [h]; exact fun h => nomatch h) other
  by_cases hother : other = place
  · rw [if_pos hother] at hset
    exact Or.inr ⟨hother ▸ h, hset⟩
  · rw [if_neg hother] at hset
    exact Or.inl hset

theorem Stores.set_file {files : Files} {place : Place} (bytes : List UInt8)
    (h : files.entryAt? place ≠ some .directory) :
    files.Stores (files.set place (.file bytes)) place bytes where
  there := (entryAt?_set _ h place).trans (if_pos rfl)
  free := h
  elsewhere other hother := Or.inl ((entryAt?_set _ h other).trans (if_neg hother))

theorem GrowsTo.stores {before between after : Files} {place : Place} {bytes : List UInt8}
    (h : before.GrowsTo between) (h' : between.Stores after place bytes) :
    before.Stores after place bytes where
  there := h'.there
  free hdirectory := h'.free (h.directory hdirectory)
  elsewhere other hother := (h other).trans (h'.elsewhere other hother)

/-! ## Directories -/

/-- **Adding a directory** changes nothing else. -/
theorem growsTo_addDirectory {files after : Files} {p : Path}
    (h : files.addDirectory p = .ok after) : files.GrowsTo after := by
  unfold addDirectory at h
  split at h
  · cases h
  · split at h
    · cases h
    · rename_i hnone
      cases h
      exact .set_directory hnone

/-- The files that are left behind, in either case. -/
def left : Except Halt Files → Files
  | .ok files => files
  | .error halt => halt.files

/-- **Making directories** changes nothing else, whether or not all of them
can be made. -/
theorem growsTo_ensureDirectory (files : Files) (start : Place) (names : List String) :
    files.GrowsTo (left (files.ensureDirectory start names)) := by
  have hsettle : ∀ (files : Files) (path : Path) (e : FileError),
      left (if files.hasDirectory path then .ok files else .error ⟨⟨e, path.text⟩, files⟩)
        = files := by
    intro files path e
    split <;> rfl
  induction names with
  | nil => exact .refl files
  | cons name names ih =>
    rw [ensureDirectory]
    cases hadd : files.addDirectory ⟨start, name :: names⟩ with
    | ok after => exact growsTo_addDirectory hadd
    | error e =>
      cases e with
      | missing =>
        cases hrest : files.ensureDirectory start names with
        | error halt => rwa [hrest] at ih
        | ok between =>
          have hbetween : files.GrowsTo between := by rwa [hrest] at ih
          cases hadd' : between.addDirectory ⟨start, name :: names⟩ with
          | ok after =>
            simp only [hadd']
            exact hbetween.trans (growsTo_addDirectory hadd')
          | error e =>
            simp only [hadd', hsettle]
            exact hbetween
      | occupied | notDirectory | isDirectory | nameTooLong =>
        simp only [hsettle]
        exact .refl files

/-! ## Files -/

/-- A way through directories stays open as long as they are there. -/
theorem follow_eq_of_directories {files after : Files} {start place : Place} {names : List String}
    (hsame : ∀ p, files.entryAt? p = some .directory → after.entryAt? p = some .directory)
    (h : files.follow start names = .ok place) : after.follow start names = .ok place := by
  have henter : ∀ {p q : Place} {name : String},
      files.enter p name = .ok q → after.enter p name = .ok q := by
    intro p q name hq
    unfold enter at hq ⊢
    split at hq
    · cases hq
    · cases hq
    · rename_i hp
      rw [hsame p hp]
      exact hq
  induction names generalizing start with
  | nil => exact h
  | cons name names ih =>
    rw [follow] at h ⊢
    split at h
    · rename_i q hq
      rw [henter hq]
      exact ih h
    · cases h

/-- **Writing a file** stores it at the place its path leads to, or leaves
nothing behind but directories. -/
theorem write_cases (files : Files) (path : String) (bytes : List UInt8) :
    (∃ halt, files.write path bytes = .error halt ∧ files.GrowsTo halt.files)
      ∨ ∃ after place, files.write path bytes = .ok after
        ∧ after.locate (Path.ofText path) = .ok place ∧ files.Stores after place bytes := by
  have hleft := growsTo_ensureDirectory files (Path.ofText path).start
    (Path.ofText path).parent.names
  rw [write]
  cases hmade : files.ensureDirectory (Path.ofText path).start (Path.ofText path).parent.names with
  | error halt =>
    rw [hmade] at hleft
    exact Or.inl ⟨halt, rfl, hleft⟩
  | ok between =>
    have hgrows : files.GrowsTo between := by rwa [hmade] at hleft
    cases hplace : between.locate (Path.ofText path) with
    | error e => exact Or.inl ⟨_, by simp only [hplace]; rfl, hgrows⟩
    | ok place =>
      by_cases hdirectory : between.entryAt? place = some .directory
      · exact Or.inl ⟨_, by simp only [hplace, if_pos hdirectory]; rfl, hgrows⟩
      · refine Or.inr ⟨between.set place (.file bytes), place,
          by simp only [hplace, if_neg hdirectory], ?_,
          hgrows.stores (.set_file bytes hdirectory)⟩
        -- the file is behind the directories on the way to it
        refine follow_eq_of_directories (fun p hp => ?_) hplace
        have hne : p ≠ place := by
          rintro rfl
          exact hdirectory hp
        rw [entryAt?_set _ hdirectory, if_neg hne, hp]

end Files

end TypedTraffic.Command
