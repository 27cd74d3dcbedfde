import NativeDeps.Proofs.Yaml.QuotedScalar

/-!
# Texts between double quotes

Between double quotes the writer holds nothing back, but folds a line at an escaped
line end.  A space that would open the new line is escaped too, for a blank there would
be lost.
-/

namespace NativeDeps.Yaml

theorem isSpecial_of_not_needsEscape
    {character : Char} (plain : needsEscape (.char character) = false) :
    isSpecial character = false := by
  simp only [needsEscape, Bool.or_eq_false_iff, Bool.not_eq_false'] at plain
  simp [isSpecial, plain.2]

/-- A letter that needs no escape is a character that stands for itself, or a space. -/
theorem isLetter_of_not_needsEscape
    {letter : Letter} (plain : needsEscape letter = false)
    (notSpace : letter ≠ .char ' ') :
    ∃ character, letter = .char character ∧ isLetter true character = true := by
  cases letter with
  | half place => cases plain
  | char character =>
      have notFeed : character ≠ '\n' := by
        rintro rfl
        exact absurd plain (by decide)
      have noGap :=
        isGap_of_not_isSpecial (isSpecial_of_not_needsEscape plain)
          (fun same => notSpace (same ▸ rfl)) notFeed
      simp only [needsEscape, Bool.or_eq_false_iff] at plain
      exact ⟨character, rfl, by simp [isLetter, noGap, plain]⟩

/-- Behind a fold a letter counts even if it is a space. -/
theorem readsQuoted_foldBefore
    {pending : Pending} {letter : Letter} {others content : Spelling}
    {more rest : List Char} (plain : needsEscape letter = false)
    (reads : ReadsQuoted true (.blanks []) more content rest) :
    ReadsQuoted true pending
      ((foldBefore (letter :: others)).1 ++ (unescaped letter ++ more))
      (pending.spelling ++ letter :: content) rest := by
  by_cases isSpace : letter = .char ' '
  · subst isSpace
    exact .escapedLineEnd (.shortEscape rfl reads)
  · have noEscape : (foldBefore (letter :: others)).1 = '\\' :: newLine := by
      simp [foldBefore, isSpace]
    obtain ⟨character, rfl, isLetter⟩ := isLetter_of_not_needsEscape plain isSpace
    rw [noEscape]
    exact .escapedLineEnd (.letter isLetter reads)

/--
What is written between double quotes reads back behind anything, except that a space
must not open a line.
-/
def ReadsDouble (text : Spelling) (rest : List Char) : Prop :=
  ∀ pending : Pending,
    (text.head? = some (.char ' ') → pending.hasBreak = false) →
      ∀ (isFirst afterEscape : Bool) (column : Nat),
        ReadsQuoted true pending
          (writeDouble isFirst afterEscape column text ++ rest)
          (pending.spelling ++ text) rest

/-- What is written behind a fold reads back. -/
def ReadsFolded (text : Spelling) (rest : List Char) : Prop :=
  ∀ (pending : Pending) (isFirst afterEscape : Bool),
    ReadsQuoted true pending
      ((foldBefore text).1 ++
        (writeDouble isFirst afterEscape (foldBefore text).2 text ++ rest))
      (pending.spelling ++ text) rest

/-- One more letter reads back if what follows it does, folded or not. -/
theorem ReadsDouble.cons
    {letter : Letter} {others : Spelling} {rest : List Char}
    (reads : ReadsDouble others rest) (folded : ReadsFolded others rest) :
    ReadsDouble (letter :: others) rest := by
  intro pending opensLine isFirst afterEscape column
  have readsOn := reads (.blanks []) fun _ => rfl
  rw [writeDouble]
  split
  · simp only []
    split
    · rw [List.append_assoc, List.append_assoc]
      exact .escape letter (folded (.blanks []) false true)
    · rw [List.append_assoc]
      exact .escape letter (readsOn _ _ _)
  · rename_i plain
    rw [Bool.not_eq_true] at plain
    split
    · simp only [List.append_assoc]
      exact readsQuoted_foldBefore plain (readsOn _ _ _)
    · by_cases isSpace : letter = .char ' '
      · subst isSpace
        cases pending with
        | blanks held =>
            have blank := reads (.blanks (held ++ [' '])) fun _ => rfl
            refine .blank ?_
            simpa [Pending.spelling, Pending.meaning, Pending.addBlank] using
              blank _ _ _
        | lines first others => exact absurd (opensLine rfl) Bool.noConfusion
      · obtain ⟨character, rfl, isLetter⟩ :=
          isLetter_of_not_needsEscape plain isSpace
        exact .letter isLetter (readsOn _ _ _)

/-- A text that reads back does so behind a fold, whether or not it opens with a space. -/
theorem ReadsFolded.cons
    {letter : Letter} {others : Spelling} {rest : List Char}
    (reads : ReadsDouble others rest)
    (readsAll : ReadsDouble (letter :: others) rest) :
    ReadsFolded (letter :: others) rest := by
  intro pending isFirst afterEscape
  by_cases isSpace : letter = .char ' '
  · subst isSpace
    have plain : needsEscape (.char ' ') = false := by decide
    have written :
        writeDouble isFirst afterEscape (newLineColumn + 1)
            (.char ' ' :: others) =
          ' ' :: writeDouble false false (newLineColumn + 2) others := by
      simp [writeDouble, plain, unescaped, newLineColumn, lineWidth]
    have column :
        (foldBefore (.char ' ' :: others)).2 = newLineColumn + 1 := rfl
    rw [column, written]
    exact readsQuoted_foldBefore plain
      (reads (.blanks []) (fun _ => rfl) _ _ _)
  · have noEscape :
        foldBefore (letter :: others) = ('\\' :: newLine, newLineColumn) := by
      simp [foldBefore, isSpace]
    rw [noEscape]
    refine .escapedLineEnd (readsAll (.lines none []) ?_ _ _ _)
    intro opens
    exact absurd (Option.some.inj opens) isSpace

/-- Every text that is written between double quotes reads back. -/
theorem readsDouble (text : Spelling) (rest : List Char) :
    ReadsDouble text rest := by
  have both : ReadsDouble text rest ∧ ReadsFolded text rest := by
    induction text with
    | nil =>
        refine ⟨fun pending _ _ _ _ => ?_, fun pending _ _ => ?_⟩
        · rw [List.append_nil]
          exact .closeDouble
        · exact .escapedLineEnd .closeDouble
    | cons letter others induction =>
        have reads : ReadsDouble (letter :: others) rest :=
          .cons induction.1 induction.2
        exact ⟨reads, .cons induction.1 reads⟩
  exact both.1

end NativeDeps.Yaml
