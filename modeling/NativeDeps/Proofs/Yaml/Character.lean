import NativeDeps.Yaml.Written

/-!
# Classes of characters

A character that needs no escape is a line feed or printable in ASCII, so of the
characters with a meaning of their own it can be few.  What is no gap neither parts
tokens nor ends a line, and a line that opens with neither a gap nor a comment opens
with a token.
-/

namespace NativeDeps.Yaml

/-! ## Gaps -/

theorem isGap_eq_false_iff (character : Char) :
    isGap character = false ↔
      character ≠ '\t' ∧ character ≠ ' ' ∧ isBreak character = false := by
  simp only [isGap, isSpaceOrBreak, Bool.or_eq_false_iff,
    beq_eq_false_iff_ne]

/-- Whether a text is over or a token opens its line. -/
def opensLine : List Char → Bool
  | [] => true
  | character :: _ => !isGap character && character != '#'

theorem opensLine_cons_iff (character : Char) (rest : List Char) :
    opensLine (character :: rest) = true ↔
      isGap character = false ∧ character ≠ '#' := by
  simp only [opensLine, Bool.and_eq_true, Bool.not_eq_true', bne_iff_ne]

/-- A character of a line takes up one column, unless it is a byte order mark. -/
theorem Position.step_inLine
    {character : Char} (noBreak : isBreak character = false)
    (noMark : character ≠ '\ufeff') (position : Position) :
    position.step character =
      ⟨position.index + 1, position.line, position.column + 1⟩ := by
  simp [step, noBreak, noMark]

theorem atDocumentMark_of_ne
    {character : Char} (notHyphen : character ≠ '-')
    (notPoint : character ≠ '.') (rest : List Char) :
    atDocumentMark (character :: rest) = false := by
  rw [atDocumentMark]
  · rintro others equal
    exact notHyphen (List.cons.inj equal).1
  · rintro others equal
    exact notPoint (List.cons.inj equal).1

/-! ## Characters that need no escape -/

/-- A character that needs no escape is a line feed or printable. -/
theorem printable_of_not_isSpecial
    {character : Char} (ordinary : isSpecial character = false) :
    character = '\n' ∨ 32 ≤ character.toNat ∧ character.toNat ≤ 126 := by
  simpa only [isSpecial, Bool.not_eq_false', Bool.or_eq_true, beq_iff_eq,
    Bool.and_eq_true, decide_eq_true_eq] using ordinary

theorem isAllowed_of_not_isSpecial
    {character : Char} (ordinary : isSpecial character = false) :
    isAllowed character = true := by
  rcases printable_of_not_isSpecial ordinary with rfl | printable
  · decide
  · simp [isAllowed, printable]

theorem isBreak_of_not_isSpecial
    {character : Char} (ordinary : isSpecial character = false)
    (notFeed : character ≠ '\n') :
    isBreak character = false := by
  rcases printable_of_not_isSpecial ordinary with isFeed | printable
  · exact absurd isFeed notFeed
  · simp only [isBreak, Bool.or_eq_false_iff, beq_eq_false_iff_ne]
    refine ⟨⟨⟨notFeed, ?_⟩, ?_⟩, ?_⟩ <;>
      rintro rfl <;>
      exact absurd printable.2 (by decide)

/-- A character that needs no escape is a gap only if it is a space or a line feed. -/
theorem isGap_of_not_isSpecial
    {character : Char} (ordinary : isSpecial character = false)
    (notSpace : character ≠ ' ') (notFeed : character ≠ '\n') :
    isGap character = false := by
  have notTab : character ≠ '\t' := by
    rintro rfl
    exact absurd ordinary (by decide)
  exact
    (isGap_eq_false_iff character).2
      ⟨notTab, notSpace, isBreak_of_not_isSpecial ordinary notFeed⟩

end NativeDeps.Yaml
