import Mathlib.Data.List.Basic
import NativeDeps.Proofs.Files.Tree

/-!
# Changes of files

What an operation changes is said by two sets of places: its targets, where anything may
come to stand, and places at which a directory may come to stand that was missing.
Everything else stays as it is.  Making directories has no target, and writing a file
has one.

Whatever keeps every directory keeps every path that could be walked.  So an operation
that has succeeded once finds its directories and its file when it is done again, and
changes nothing then.
-/

namespace NativeDeps.Files

namespace Path

variable {path : Path} {directory place : List Spelling}

/-- A place is one of those that a path leads through, from its start to its end. -/
def LeadsThrough (path : Path) (directory place : List Spelling) : Prop :=
  ∃ count, place = location directory ⟨path.anchor, path.parts.take count⟩

theorem leadsThrough_location (path : Path) (directory : List Spelling) :
    path.LeadsThrough directory (path.location directory) :=
  ⟨path.parts.length, by rw [List.take_length]⟩

theorem LeadsThrough.of_parent
    (leads : path.parent.LeadsThrough directory place) :
    path.LeadsThrough directory place := by
  obtain ⟨count, rfl⟩ := leads
  refine ⟨min count (path.parts.length - 1), ?_⟩
  rw [parent, List.dropLast_eq_take, List.take_take]

end Path

namespace Tree

variable {tree middle after made written : Tree} {path : Path}
  {place location : Location} {content : Content}
  {isTarget isAlong : Location → Prop}

/-- No place is a target. -/
def noTarget (_ : Location) : Prop := False

/--
Files that differ from earlier ones at targets only, and by directories that were missing
at other places.
-/
structure ChangesOnly (tree : Tree) (isTarget isAlong : Location → Prop)
    (after : Tree) : Prop where
  directory : after.directory = tree.directory
  limits : after.limits = tree.limits
  changes :
    ∀ place,
      after.get? place ≠ tree.get? place →
        isTarget place ∨
          tree.get? place = none ∧ after.get? place = some .directory ∧
            isAlong place

namespace ChangesOnly

theorem refl (tree : Tree) : tree.ChangesOnly isTarget isAlong tree :=
  ⟨rfl, rfl, fun _ differs => absurd rfl differs⟩

theorem mono
    {otherTarget otherAlong : Location → Prop}
    (changes : tree.ChangesOnly isTarget isAlong after)
    (targets : ∀ place, isTarget place → otherTarget place)
    (along : ∀ place, isAlong place → otherAlong place) :
    tree.ChangesOnly otherTarget otherAlong after := by
  refine ⟨changes.directory, changes.limits, fun place differs => ?_⟩
  rcases changes.changes place differs with target | ⟨missing, made, leads⟩
  · exact .inl (targets place target)
  · exact .inr ⟨missing, made, along place leads⟩

/-- A directory that was made before is not missing after, so it is made once. -/
theorem trans
    (first : tree.ChangesOnly isTarget isAlong middle)
    (second : middle.ChangesOnly isTarget isAlong after) :
    tree.ChangesOnly isTarget isAlong after := by
  refine
    ⟨second.directory.trans first.directory, second.limits.trans first.limits,
      fun place differs => ?_⟩
  by_cases sameFirst : middle.get? place = tree.get? place
  · rw [← sameFirst] at differs ⊢
    exact second.changes place differs
  · rcases first.changes place sameFirst with target | ⟨missing, made, along⟩
    · exact .inl target
    · by_cases sameSecond : after.get? place = middle.get? place
      · exact .inr ⟨missing, sameSecond.trans made, along⟩
      · rcases second.changes place sameSecond with target | ⟨gone, _⟩
        · exact .inl target
        · rw [made] at gone
          cases gone

/-- What stands at a place that is no target stays there. -/
theorem get?_eq_some
    {entry : Entry} (changes : tree.ChangesOnly isTarget isAlong after)
    (stands : tree.get? place = some entry) (isOther : ¬ isTarget place) :
    after.get? place = some entry := by
  by_contra differs
  rw [← stands] at differs
  rcases changes.changes place differs with target | ⟨missing, _⟩
  · exact isOther target
  · rw [stands] at missing
    cases missing

/-- One entry that is set is a change at its place. -/
theorem set (isTargetPlace : isTarget place) (entry : Entry) :
    tree.ChangesOnly isTarget isAlong (tree.set place entry) := by
  refine ⟨rfl, rfl, fun other differs => .inl ?_⟩
  by_cases same : other = place
  · rwa [same]
  · exact absurd (tree.get?_set_of_ne same entry) differs

/-- A directory that is set where nothing stood changes no target. -/
theorem setDirectory
    (missing : tree.get? place = none) (isAlongPlace : isAlong place) :
    tree.ChangesOnly isTarget isAlong (tree.set place .directory) := by
  have notDirectory : tree.get? place ≠ some .directory := by
    rw [missing]
    exact nofun
  have made := get?_set tree (ne_root_of_get?_ne notDirectory) .directory
  refine ⟨rfl, rfl, fun other differs => .inr ?_⟩
  by_cases same : other = place
  · subst same
    exact ⟨missing, made, isAlongPlace⟩
  · exact absurd (tree.get?_set_of_ne same .directory) differs

end ChangesOnly

/-- The directories of some files are still directories later. -/
structure KeepsDirectories (tree after : Tree) : Prop where
  directory : after.directory = tree.directory
  stay :
    ∀ place,
      tree.get? place = some .directory → after.get? place = some .directory

namespace KeepsDirectories

theorem set
    (notDirectory : tree.get? place ≠ some .directory) (entry : Entry) :
    tree.KeepsDirectories (tree.set place entry) := by
  refine ⟨rfl, fun other isDirectory => ?_⟩
  have differs : other ≠ place := by
    rintro rfl
    exact notDirectory isDirectory
  rwa [tree.get?_set_of_ne differs entry]

theorem walk
    {names : List Spelling} (keeps : tree.KeepsDirectories after)
    (walks : tree.walk location names = .ok place) :
    after.walk location names = .ok place := by
  induction names generalizing location with
  | nil => exact walks
  | cons name rest induction =>
      rw [Tree.walk] at walks ⊢
      cases stands : tree.get? location with
      | none =>
          rw [stands] at walks
          cases walks
      | some entry =>
          rw [stands] at walks
          cases entry with
          | file content => cases walks
          | directory =>
              rw [keeps.stay location stands]
              dsimp only at walks ⊢
              split_ifs at walks ⊢ with isUp tooLong
              · exact induction walks
              · exact induction walks

theorem find
    (keeps : tree.KeepsDirectories after)
    (found : tree.find path = .ok place) : after.find path = .ok place := by
  rw [Tree.find] at found ⊢
  split_ifs at found ⊢ with tooLong isHere
  · rw [keeps.directory]
    exact keeps.walk found
  · exact keeps.walk found

theorem isDirectory
    (keeps : tree.KeepsDirectories after)
    (stands : tree.isDirectory path = true) :
    after.isDirectory path = true := by
  obtain ⟨place, found, isThere⟩ := isDirectory_iff.1 stands
  exact isDirectory_iff.2 ⟨place, keeps.find found, keeps.stay place isThere⟩

end KeepsDirectories

/-- What is a directory already is not made. -/
theorem makeDirectory_of_isDirectory
    (stands : tree.isDirectory path = true) :
    tree.makeDirectory path = .error .exists := by
  obtain ⟨place, found, isThere⟩ := isDirectory_iff.1 stands
  rw [makeDirectory, found]
  dsimp only
  rw [isThere]

theorem makeDirectories_of_isDirectory
    (stands : tree.isDirectory path = true) (depth : Nat) :
    tree.makeDirectories path depth = (tree, none) := by
  have settles : settle tree path .exists = (tree, none) := by
    rw [settle, if_pos stands]
  cases depth with
  | zero =>
      rw [makeDirectories, makeDirectory_of_isDirectory stands]
      exact settles
  | succ depth =>
      rw [makeDirectories, makeDirectory_of_isDirectory stands]
      exact settles

/--
What comes of making a directory with those above it: directories that were missing, and
if nothing stops the work, the one that was asked for.
-/
structure Prepares (tree : Tree) (path : Path)
    (result : Tree × Option (Fault × Path)) : Prop where
  changes :
    tree.ChangesOnly noTarget (path.LeadsThrough tree.directory) result.1
  reached : result.2 = none → result.1.isDirectory path = true

namespace Prepares

theorem of_makeDirectory (makes : tree.makeDirectory path = .ok made) :
    tree.Prepares path (made, none) := by
  obtain ⟨place, found, missing, rfl⟩ := eq_set_of_makeDirectory makes
  have notDirectory : tree.get? place ≠ some .directory := by
    rw [missing]
    exact nofun
  have keeps := KeepsDirectories.set notDirectory .directory
  have leads : path.LeadsThrough tree.directory place := by
    rw [eq_location_of_find found]
    exact path.leadsThrough_location tree.directory
  refine ⟨.setDirectory missing leads, fun _ => isDirectory_iff.2 ?_⟩
  exact
    ⟨place, keeps.find found,
      get?_set tree (ne_root_of_get?_ne notDirectory) .directory⟩

theorem of_settle (tree : Tree) (path : Path) (fault : Fault) :
    tree.Prepares path (settle tree path fault) := by
  refine ⟨?_, fun settles => ?_⟩
  · rw [fst_settle]
    exact .refl tree
  · rw [fst_settle]
    exact isDirectory_of_settle settles

/-- The directories above a path are made along it. -/
theorem of_parent
    {result : Tree × Option (Fault × Path)}
    (above : tree.Prepares path.parent (middle, none))
    (rest : middle.Prepares path result) : tree.Prepares path result := by
  refine ⟨?_, rest.reached⟩
  have below := rest.changes
  rw [above.changes.directory] at below
  exact
    (above.changes.mono (fun _ target => target) fun _ leads =>
      leads.of_parent).trans below

end Prepares

theorem prepares_makeDirectories (tree : Tree) (path : Path) (depth : Nat) :
    tree.Prepares path (tree.makeDirectories path depth) := by
  induction depth generalizing path with
  | zero =>
      rw [makeDirectories]
      split
      · rename_i made makes
        exact .of_makeDirectory makes
      · exact ⟨.refl tree, nofun⟩
      · exact .of_settle tree path _
  | succ depth induction =>
      have above := induction path.parent
      rw [makeDirectories]
      split
      · rename_i made makes
        exact .of_makeDirectory makes
      · split
        · rename_i reached failure stopped
          rw [stopped] at above
          exact
            ⟨above.changes.mono (fun _ target => target) fun _ leads =>
              leads.of_parent, nofun⟩
        · rename_i reached prepared
          rw [prepared] at above
          refine .of_parent above ?_
          split
          · rename_i made makes
            exact .of_makeDirectory makes
          · exact .of_settle reached path _
      · exact .of_settle tree path _

theorem prepares_ensureDirectory (tree : Tree) (path : Path) :
    tree.Prepares path (tree.ensureDirectory path) :=
  tree.prepares_makeDirectories path path.parts.length

/-- Writing a file changes its place alone. -/
theorem changesOnly_of_write
    (writes : tree.write path content = .ok written)
    (isTargetPlace : isTarget (path.location tree.directory)) :
    tree.ChangesOnly isTarget isAlong written := by
  obtain ⟨place, found, _, rfl⟩ := eq_set_of_write writes
  rw [← eq_location_of_find found] at isTargetPlace
  exact .set isTargetPlace _

theorem keepsDirectories_of_write
    (writes : tree.write path content = .ok written) :
    tree.KeepsDirectories written := by
  obtain ⟨place, _, notDirectory, rfl⟩ := eq_set_of_write writes
  exact .set notDirectory _

/-- What was written to a path is read from it again. -/
theorem read_of_write
    (writes : tree.write path content = .ok written) :
    written.read path = .ok content := by
  have keeps := keepsDirectories_of_write writes
  obtain ⟨place, found, notDirectory, rfl⟩ := eq_set_of_write writes
  have stands :=
    get?_set tree (ne_root_of_get?_ne notDirectory) (.file content)
  rw [read, entry, keeps.find found]
  dsimp only
  rw [stands]

/-- What is written to a file that was written stands in place of what was there. -/
theorem write_of_write
    (writes : tree.write path content = .ok written) (other : Content) :
    written.write path other =
      .ok (written.set (path.location tree.directory) (.file other)) := by
  have keeps := keepsDirectories_of_write writes
  obtain ⟨place, found, notDirectory, rfl⟩ := eq_set_of_write writes
  have stands :=
    get?_set tree (ne_root_of_get?_ne notDirectory) (.file content)
  rw [write, keeps.find found, ← eq_location_of_find found]
  dsimp only
  rw [stands]

/-- Where one content can be written, any other can, and it is set behind the first. -/
theorem write_of_write_other
    (writes : tree.write path content = .ok written) (other : Content) :
    tree.write path other =
      .ok (written.set (path.location tree.directory) (.file other)) := by
  obtain ⟨place, found, notDirectory, rfl⟩ := eq_set_of_write writes
  rw [← eq_location_of_find found, set_set, write, found]
  dsimp only
  split
  · rename_i isDirectory
    exact absurd isDirectory notDirectory
  · rfl

end Tree

end NativeDeps.Files
