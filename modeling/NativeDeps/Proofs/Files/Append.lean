import Mathlib.Data.List.Basic
import NativeDeps.Proofs.Files.Tree

/-!
# Adding to files

A file that is opened for additions keeps what it holds, and one that is missing is made
empty.  Either way every file holds as much as before, a missing one being counted as
empty, so that what is added later comes behind it.
-/

namespace NativeDeps.Files

namespace Content

variable (content : Content)

@[simp]
theorem append_empty : content.append "" = content := by
  cases content with
  | text value => exact congrArg Content.text String.append_empty
  | bytes value =>
      rw [append]
      simp

theorem append_append (first second : String) :
    (content.append first).append second = content.append (first ++ second) := by
  cases content with
  | text value => exact congrArg Content.text String.append_assoc
  | bytes value =>
      simp only [append, String.toUTF8_eq_toByteArray,
        String.toByteArray_append, ByteArray.data_append, Array.toList_append,
        List.append_assoc]

/-- What was added to a content can be read off the result. -/
theorem append_right_inj {first second : String} :
    content.append first = content.append second ↔ first = second := by
  constructor
  · intro same
    cases content with
    | text value =>
        exact (String.append_right_inj value).1 (Content.text.inj same)
    | bytes value =>
        have sameBytes := List.append_cancel_left (Content.bytes.inj same)
        exact
          String.toByteArray_inj.1 (ByteArray.ext (Array.toList_inj.1 sameBytes))
  · rintro rfl
    rfl

end Content

namespace Tree

variable {tree opened : Tree} {path : Path} {place other : Location}

/-- What the file at a place holds; where there is no file that is nothing. -/
def contentAt (tree : Tree) (place : Location) : Content :=
  match tree.get? place with
  | some (.file content) => content
  | _ => .text ""

/-- A file stands at a place. -/
def IsFile (tree : Tree) (place : Location) : Prop :=
  tree.get? place = some (.file (tree.contentAt place))

theorem isFile_of_get? {content : Content}
    (stands : tree.get? place = some (.file content)) : tree.IsFile place := by
  rw [IsFile, contentAt, stands]

theorem IsFile.ne_root (isFile : tree.IsFile place) : place ≠ [] := by
  have notDirectory : tree.get? place ≠ some .directory := by
    rw [isFile]
    exact nofun
  exact ne_root_of_get?_ne notDirectory

theorem contentAt_congr {later : Tree}
    (same : later.get? place = tree.get? place) :
    later.contentAt place = tree.contentAt place := by
  rw [contentAt, contentAt, same]

/-- What opening a file for additions comes to: it stands there, or it is made empty. -/
theorem eq_of_openForAppend
    (opens : tree.openForAppend path = .ok (opened, place)) :
    place = path.location tree.directory ∧
      (tree.IsFile place ∧ opened = tree ∨
        tree.get? place = none ∧
          opened = tree.set place (.file (.text ""))) := by
  rw [openForAppend] at opens
  cases found : tree.find path with
  | error fault =>
      rw [found] at opens
      cases opens
  | ok location =>
      rw [found] at opens
      dsimp only at opens
      cases stands : tree.get? location with
      | none =>
          rw [stands] at opens
          cases opens
          exact ⟨eq_location_of_find found, .inr ⟨stands, rfl⟩⟩
      | some entry =>
          rw [stands] at opens
          cases entry with
          | directory => cases opens
          | file content =>
              cases opens
              exact
                ⟨eq_location_of_find found, .inl ⟨isFile_of_get? stands, rfl⟩⟩

/-- The files after something was added at one place, and nothing anywhere else. -/
structure AddsAt (tree : Tree) (place : Location) (text : String)
    (after : Tree) : Prop where
  directory : after.directory = tree.directory
  stands : after.get? place = some (.file ((tree.contentAt place).append text))
  elsewhere : ∀ other, other ≠ place → after.get? other = tree.get? other

namespace AddsAt

variable {after : Tree} {text : String}

theorem of_set {content : Content} (notRoot : place ≠ [])
    (same : content = (tree.contentAt place).append text) :
    tree.AddsAt place text (tree.set place (.file content)) := by
  subst same
  exact
    ⟨rfl, get?_set tree notRoot _, fun _ differs =>
      get?_set_of_ne tree differs _⟩

theorem isFile (adds : tree.AddsAt place text after)
    (isFile : tree.IsFile other ∨ other = place) : after.IsFile other := by
  by_cases same : other = place
  · subst same
    exact isFile_of_get? adds.stands
  · have standing := isFile.resolve_right same
    rw [IsFile, ← adds.elsewhere other same] at standing
    exact isFile_of_get? standing

theorem contentAt (adds : tree.AddsAt place text after) (other : Location) :
    after.contentAt other =
      (tree.contentAt other).append (if other = place then text else "") := by
  split_ifs with same
  · subst same
    rw [Tree.contentAt, adds.stands]
  · rw [Content.append_empty]
    exact contentAt_congr (adds.elsewhere other same)

end AddsAt

theorem addsAt_of_openForAppend
    (opens : tree.openForAppend path = .ok (opened, place)) :
    tree.AddsAt place "" opened := by
  obtain ⟨_, ⟨isFile, rfl⟩ | ⟨missing, rfl⟩⟩ := eq_of_openForAppend opens
  · refine ⟨rfl, ?_, fun _ _ => rfl⟩
    rw [Content.append_empty]
    exact isFile
  · have notDirectory : tree.get? place ≠ some .directory := by
      rw [missing]
      exact nofun
    refine .of_set (ne_root_of_get?_ne notDirectory) ?_
    rw [Content.append_empty, Tree.contentAt, missing]

theorem addsAt_append (isFile : tree.IsFile place) (text : String) :
    tree.AddsAt place text (tree.append place text) := by
  have notRoot := isFile.ne_root
  rw [IsFile] at isFile
  rw [append, isFile]
  exact .of_set notRoot rfl

end Tree

end NativeDeps.Files
