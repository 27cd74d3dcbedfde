import NativeDeps.Proofs.Nix.Inputs
import NativeDeps.Proofs.Text.Spelling

/-!
# Expressions without halves of characters

An expression adds characters to what it is made of, and leaves out no letter of it.  So
there is a half of a character in it exactly if there is one in its package set, in the
name of the project or in an attribute path.  Only an expression without halves can be
written to a file.
-/

namespace NativeDeps

namespace Spelling

variable {spelling : Spelling}

theorem isWhole_cons {letter : Letter} {rest : Spelling} :
    IsWhole (letter :: rest) ↔ letter.isChar = true ∧ rest.IsWhole :=
  List.forall_mem_cons

theorem isWhole_flatMap {α : Type} {items : List α} {spell : α → Spelling} :
    IsWhole (items.flatMap spell) ↔ ∀ item ∈ items, (spell item).IsWhole := by
  simp only [IsWhole, List.mem_flatMap]
  constructor
  · intro isWhole item member letter inItem
    exact isWhole letter ⟨item, member, inItem⟩
  · rintro areWhole letter ⟨item, member, inItem⟩
    exact areWhole item member letter inItem

end Spelling

namespace Nix

open Spelling

theorem isWhole_backslashed (letter : Letter) :
    (backslashed letter).IsWhole ↔ letter.isChar = true := by
  rw [backslashed]
  split <;> simp [IsWhole, Letter.isChar]

/-- Only backslashes are put into a text where it is escaped. -/
theorem isWhole_escape (text : Spelling) :
    (escape text).IsWhole ↔ text.IsWhole := by
  rw [escape_eq_escapeAtOnce]
  fun_induction escapeAtOnce text with
  | case1 => rfl
  | case2 rest induction => simp [isWhole_cons, Letter.isChar, induction]
  | case3 letter rest _ induction =>
      rw [isWhole_append, isWhole_backslashed, induction, isWhole_cons]

theorem isWhole_heading (packages : Spelling) :
    (heading packages).IsWhole ↔ packages.IsWhole := by
  simp [heading, isWhole_append, isWhole_ofText]

theorem isWhole_listing (paths : List Spelling) :
    (listing paths).IsWhole ↔ ∀ path ∈ paths, path.IsWhole := by
  have isWholeItem :
      ∀ path : Spelling,
        IsWhole (lineEnd :: inputLine path) ↔ path.IsWhole := by
    intro path
    simp [isWhole_cons, lineEnd, Letter.isChar, inputLine, isWhole_append,
      isWhole_ofText]
  cases paths with
  | nil => exact iff_of_true (by decide) nofun
  | cons path rest =>
      rw [listing, if_neg (by simp)]
      simp only [isWhole_append, itemLines, isWhole_flatMap, isWholeItem,
        opening, closingLine, isWhole_ofText, true_and, and_true]

/-- An expression has no halves if there are none in what it is made of. -/
theorem isWhole_expression (packages : Spelling) (set : DependencySet) :
    (expression packages set).IsWhole ↔
      packages.IsWhole ∧ set.name.IsWhole ∧
        ∀ path ∈ set.attributePaths, path.IsWhole := by
  rw [expression_eq, isWhole_append, isWhole_append, isWhole_heading,
    isWhole_escape, isWhole_cons, isWhole_listing]
  simp [Letter.isChar]

end Nix

/-- The identifier is a part of the attribute path. -/
theorem Dependency.isWhole_identifier {dependency : Dependency}
    (isWhole : dependency.attributePath.IsWhole) :
    dependency.identifier.IsWhole := by
  rw [attributePath] at isWhole
  split at isWhole
  · exact isWhole
  · split at isWhole
    · exact isWhole
    · exact (Spelling.isWhole_append.1 isWhole).2

end NativeDeps
