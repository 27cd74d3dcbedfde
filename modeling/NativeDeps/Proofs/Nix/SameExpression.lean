import Mathlib.Data.List.Basic
import NativeDeps.Proofs.Nix.Inputs

/-!
# Equal expressions

A Nix expression tells the name of the project and the attribute paths of its set.  The
name may hold anything, also what looks like the rest of the expression, but its literal
ends where it says: behind the heading the reader finds the name and, whatever follows,
the whole listing.  So equal expressions have equal names and equal listings.

A listing without inputs looks different from every other one.  In a listing with inputs
every path stands behind the end of a line, so paths without line ends are told apart;
a path with a line end in it may look like two.
-/

namespace NativeDeps

namespace Nix

/-- A path without a line end goes as far as the next item, or to the end. -/
theorem takeWhile_append_itemLines
    {path : Spelling} (oneLine : lineEnd ∉ path) (paths : List Spelling) :
    (path ++ itemLines paths).takeWhile (· != lineEnd) = path := by
  have inPath : ∀ letter ∈ path, (letter != lineEnd) = true := by
    intro letter member
    apply bne_iff_ne.2
    rintro rfl
    exact oneLine member
  have behindPath : (itemLines paths).takeWhile (· != lineEnd) = [] := by
    cases paths <;> rfl
  rw [List.takeWhile_append_of_pos inPath, behindPath, List.append_nil]

/-- Paths without line ends can be read off their items. -/
theorem eq_of_itemLines_eq
    {paths others : List Spelling}
    (oneLine : ∀ path ∈ paths, lineEnd ∉ path)
    (othersOneLine : ∀ path ∈ others, lineEnd ∉ path)
    (same : itemLines paths = itemLines others) :
    paths = others := by
  induction paths generalizing others with
  | nil =>
      cases others with
      | nil => rfl
      | cons other otherRest => cases same
  | cons path rest induction =>
      cases others with
      | nil => cases same
      | cons other otherRest =>
          obtain ⟨pathOneLine, restOneLine⟩ := List.forall_mem_cons.1 oneLine
          obtain ⟨otherOneLine, otherRestOneLine⟩ :=
            List.forall_mem_cons.1 othersOneLine
          rw [itemLines_cons, itemLines_cons] at same
          have behindIndent :
              path ++ itemLines rest = other ++ itemLines otherRest := by
            simpa [inputLine] using same
          have samePath : path = other := by
            have firstLines :=
              congrArg (List.takeWhile (· != lineEnd)) behindIndent
            rwa [takeWhile_append_itemLines pathOneLine,
              takeWhile_append_itemLines otherOneLine] at firstLines
          have sameRest : itemLines rest = itemLines otherRest := by
            rw [samePath] at behindIndent
            exact List.append_cancel_left behindIndent
          rw [samePath,
            induction restOneLine otherRestOneLine sameRest]

/-- Two listings are equal if both have no inputs, or both have the same items. -/
theorem listing_eq_iff (paths others : List Spelling) :
    listing paths = listing others ↔
      (paths = [] ↔ others = []) ∧ itemLines paths = itemLines others := by
  have noItems : after? opening (listing []) = none := by decide
  have items :
      ∀ path rest,
        after? opening (listing (path :: rest)) =
          some (itemLines (path :: rest) ++ closingLine ++ "\x7d\n") := by
    intro path rest
    rw [listing, if_neg (by simp), List.append_assoc, List.append_assoc,
      after?_append, List.append_assoc]
  constructor
  · intro same
    have sameItems := congrArg (after? opening) same
    cases paths with
    | nil =>
        cases others with
        | nil => exact ⟨Iff.rfl, rfl⟩
        | cons other otherRest =>
            rw [noItems, items] at sameItems
            cases sameItems
    | cons path rest =>
        cases others with
        | nil =>
            rw [noItems, items] at sameItems
            cases sameItems
        | cons other otherRest =>
            rw [items, items, Option.some_inj, List.append_assoc,
              List.append_assoc] at sameItems
            exact ⟨by simp, List.append_cancel_right sameItems⟩
  · rintro ⟨sameEmptiness, sameItems⟩
    simp only [listing, List.isEmpty_iff, sameEmptiness, sameItems]

/-- A path with a line end in it can look like two paths. -/
example :
    listing ["zlib\n    zstd"] = listing ["zlib", "zstd"] := by decide

/-- Expressions for one package set are equal if they have the same name and listing. -/
theorem expression_eq_iff
    (packages : Spelling) (set other : DependencySet) :
    expression packages set = expression packages other ↔
      set.name = other.name ∧
        listing set.attributePaths = listing other.attributePaths := by
  rw [expression_eq, expression_eq]
  constructor
  · intro same
    have readAlike := congrArg readLiteral (List.append_cancel_left same)
    rw [readLiteral_escape, readLiteral_escape] at readAlike
    injection readAlike with sameName sameListing
    exact ⟨sameName, sameListing⟩
  · rintro ⟨sameName, sameListing⟩
    rw [sameName, sameListing]

end Nix

namespace Provisioner

/--
Sets that are rendered alike have the same name, and both have dependencies or neither
has; and if no path has a line end in it, they have the same paths in the same order.
-/
theorem name_and_paths_of_render_eq
    (provisioner : Provisioner) (set other : DependencySet) (text : Spelling)
    (isNix : provisioner.kind = .nix)
    (rendered : provisioner.render set = .ok text)
    (renderedOther : provisioner.render other = .ok text) :
    set.name = other.name ∧
      (set.dependencies = [] ↔ other.dependencies = []) ∧
      ((∀ path ∈ set.attributePaths ++ other.attributePaths,
          Letter.char '\n' ∉ path) →
        set.attributePaths = other.attributePaths) := by
  obtain ⟨value, packages, setting, written, isExpression⟩ :=
    render_nix isNix rendered
  obtain ⟨otherValue, otherPackages, otherSetting, otherWritten, isOther⟩ :=
    render_nix isNix renderedOther
  obtain rfl := Except.ok.inj (setting.symm.trans otherSetting)
  obtain rfl := Except.ok.inj (written.symm.trans otherWritten)
  have same := isExpression.symm.trans isOther
  obtain ⟨sameName, sameListing⟩ := (Nix.expression_eq_iff _ _ _).1 same
  obtain ⟨sameEmptiness, sameItems⟩ := (Nix.listing_eq_iff _ _).1 sameListing
  refine ⟨sameName, ?_, ?_⟩
  · simpa [DependencySet.attributePaths] using sameEmptiness
  · intro oneLine
    obtain ⟨setOneLine, otherOneLine⟩ := List.forall_mem_append.1 oneLine
    exact Nix.eq_of_itemLines_eq setOneLine otherOneLine sameItems

/-- A set whose name looks like the end of its literal and the rest of an expression. -/
def baitSet : DependencySet where
  name := "tool\";\n  buildInputs = [ ];\n# $\x7bname"
  host := some "darwin"
  dependencies :=
    [⟨"zlib", none⟩, ⟨"Security", some "darwin.frameworks"⟩]

/-- The same paths on no host, and parted in another way into scope and identifier. -/
def regroupedSet : DependencySet where
  name := baitSet.name
  host := none
  dependencies :=
    [⟨"zlib", some ""⟩, ⟨"frameworks.Security", some "darwin"⟩]

/-- The two sets are rendered alike, so they have the same name and the same paths. -/
theorem name_and_paths_of_regroupedSet :
    ∃ text,
      plainNix.kind = .nix ∧
        plainNix.render baitSet = .ok text ∧
        plainNix.render regroupedSet = .ok text ∧
        (∀ path ∈ baitSet.attributePaths ++ regroupedSet.attributePaths,
          Letter.char '\n' ∉ path) ∧
        baitSet.name = regroupedSet.name ∧
        (baitSet.dependencies = [] ↔ regroupedSet.dependencies = []) ∧
        baitSet.attributePaths = regroupedSet.attributePaths := by
  have rendered :
      plainNix.render baitSet = .ok (Nix.expression "<nixpkgs>" baitSet) :=
    rfl
  have renderedAlike :
      plainNix.render regroupedSet =
        .ok (Nix.expression "<nixpkgs>" baitSet) := by
    have same :
        Nix.expression "<nixpkgs>" regroupedSet =
          Nix.expression "<nixpkgs>" baitSet := by
      decide +kernel
    rw [← same]
    rfl
  have oneLine :
      ∀ path ∈ baitSet.attributePaths ++ regroupedSet.attributePaths,
        Letter.char '\n' ∉ path := by
    decide
  obtain ⟨sameName, sameEmptiness, samePaths⟩ :=
    name_and_paths_of_render_eq plainNix baitSet regroupedSet _ rfl rendered
      renderedAlike
  exact
    ⟨_, rfl, rendered, renderedAlike, oneLine, sameName, sameEmptiness,
      samePaths oneLine⟩

end Provisioner

end NativeDeps
