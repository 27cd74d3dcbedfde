import Mathlib.Data.List.Basic
import NativeDeps.Files.Tree

/-!
# Writing files

A walk along a path ends where the text of the path says, provided that it ends at all.
So what is written to a path is found afterwards at the place that the path denotes,
and that is also the place of the resolved path.  Making a directory and writing a file both
set one entry, and no entry but that one.
-/

namespace NativeDeps.Files.Tree

theorem lookup_setEntry
    (location : Location) (entry : Entry)
    (entries : List (Location × Entry)) :
    (setEntry location entry entries).lookup location = some entry := by
  induction entries with
  | nil => simp [setEntry]
  | cons first rest induction =>
      rcases first with ⟨place, old⟩
      rw [setEntry]
      split_ifs with same
      · simp
      · have differs : (location == place) = false := by
          rw [beq_eq_false_iff_ne]
          exact Ne.symm same
        rw [List.lookup_cons, differs, induction]

theorem get?_set
    (tree : Tree) {location : Location} (notRoot : location ≠ [])
    (entry : Entry) :
    (tree.set location entry).get? location = some entry := by
  rw [get?, if_neg notRoot]
  exact lookup_setEntry location entry tree.entries

theorem lookup_setEntry_of_ne
    {place location : Location} (differs : place ≠ location) (entry : Entry)
    (entries : List (Location × Entry)) :
    (setEntry location entry entries).lookup place = entries.lookup place := by
  have notHere : (place == location) = false := beq_eq_false_iff_ne.2 differs
  induction entries with
  | nil => simp [setEntry, List.lookup_cons, notHere]
  | cons first rest induction =>
      rcases first with ⟨other, old⟩
      rw [setEntry]
      split_ifs with same
      · rw [List.lookup_cons, List.lookup_cons, same, notHere]
      · rw [List.lookup_cons, List.lookup_cons, induction]

/-- Of two entries that are set at one place the last one stands. -/
theorem setEntry_setEntry
    (location : Location) (entry other : Entry)
    (entries : List (Location × Entry)) :
    setEntry location other (setEntry location entry entries) =
      setEntry location other entries := by
  induction entries with
  | nil => simp [setEntry]
  | cons first rest induction =>
      rcases first with ⟨place, old⟩
      rw [setEntry]
      split_ifs with same
      · rw [setEntry, if_pos rfl, setEntry, if_pos same]
      · rw [setEntry, if_neg same, setEntry, if_neg same, induction]

theorem get?_set_of_ne
    (tree : Tree) {place location : Location} (differs : place ≠ location)
    (entry : Entry) :
    (tree.set location entry).get? place = tree.get? place := by
  rw [get?, get?]
  split_ifs with isRoot
  · rfl
  · exact lookup_setEntry_of_ne differs entry tree.entries

theorem set_set (tree : Tree) (location : Location) (entry other : Entry) :
    (tree.set location entry).set location other = tree.set location other :=
  congrArg (Tree.mk · tree.directory tree.limits)
    (setEntry_setEntry location entry other tree.entries)

/-- The root is a directory, so what is none is somewhere else. -/
theorem ne_root_of_get?_ne
    {tree : Tree} {place : Location}
    (notDirectory : tree.get? place ≠ some .directory) : place ≠ [] := by
  rintro rfl
  exact notDirectory rfl

/-- A walk that ends has taken the steps that its names say. -/
theorem eq_foldl_of_walk
    {tree : Tree} {location place : Location} {names : List Spelling}
    (walks : tree.walk location names = .ok place) :
    place = names.foldl Path.stepLexically location := by
  induction names generalizing location with
  | nil =>
      rw [walk] at walks
      exact (Except.ok.inj walks).symm
  | cons name rest induction =>
      rw [walk] at walks
      split at walks
      · cases walks
      · cases walks
      · rw [List.foldl_cons, Path.stepLexically]
        split_ifs at walks ⊢ with isUp tooLong
        · exact induction walks
        · exact induction walks

/-- Where a path leads to anything, it leads to the place that its text tells. -/
theorem eq_location_of_find
    {tree : Tree} {path : Path} {place : Location}
    (found : tree.find path = .ok place) :
    place = path.location tree.directory := by
  rw [find] at found
  split_ifs at found with tooLong isHere
  · have walked := eq_foldl_of_walk found
    rwa [Path.location, if_pos isHere]
  · have walked := eq_foldl_of_walk found
    rwa [Path.location, if_neg isHere]

/-- What a successful write is: one entry is set, and it is no directory. -/
theorem eq_set_of_write
    {tree written : Tree} {path : Path} {content : Content}
    (writes : tree.write path content = .ok written) :
    ∃ place,
      tree.find path = .ok place ∧ tree.get? place ≠ some .directory ∧
        written = tree.set place (.file content) := by
  rw [write] at writes
  split at writes
  · cases writes
  · rename_i place found
    split at writes
    · cases writes
    · rename_i notDirectory
      exact ⟨place, found, notDirectory, (Except.ok.inj writes).symm⟩

/-- What was written to a path stands at the place that the path denotes. -/
theorem get?_of_write
    {tree written : Tree} {path : Path} {content : Content}
    (writes : tree.write path content = .ok written) :
    written.get? (path.location tree.directory) = some (.file content) := by
  obtain ⟨place, found, notDirectory, rfl⟩ := eq_set_of_write writes
  rw [← eq_location_of_find found]
  exact get?_set tree (ne_root_of_get?_ne notDirectory) _

/-- What making a directory is: one entry is set where there was none. -/
theorem eq_set_of_makeDirectory
    {tree made : Tree} {path : Path}
    (makes : tree.makeDirectory path = .ok made) :
    ∃ place,
      tree.find path = .ok place ∧ tree.get? place = none ∧
        made = tree.set place .directory := by
  rw [makeDirectory] at makes
  split at makes
  · cases makes
  · rename_i place found
    split at makes
    · cases makes
    · rename_i missing
      exact ⟨place, found, missing, (Except.ok.inj makes).symm⟩

theorem isDirectory_iff {tree : Tree} {path : Path} :
    tree.isDirectory path = true ↔
      ∃ place,
        tree.find path = .ok place ∧ tree.get? place = some .directory := by
  rw [isDirectory, Tree.entry]
  cases found : tree.find path with
  | error fault => simp
  | ok place =>
      cases stands : tree.get? place with
      | none => simp [stands]
      | some entry => cases entry <;> simp [stands]

theorem fst_settle (tree : Tree) (path : Path) (fault : Fault) :
    (settle tree path fault).1 = tree := by
  rw [settle]
  split <;> rfl

theorem isDirectory_of_settle
    {tree : Tree} {path : Path} {fault : Fault}
    (settles : (settle tree path fault).2 = none) :
    tree.isDirectory path = true := by
  rw [settle] at settles
  split at settles
  · assumption
  · cases settles

end NativeDeps.Files.Tree
