import NativeDeps.Proofs.Yaml.Character
import NativeDeps.Yaml.Token.Plain

/-!
# Plain scalars read back

A text that fits a plain scalar may still be folded where it is long.  Both the writer
and the reader count spaces before they know what follows them, and where the text is
folded a line end is read for the one space that was counted.
-/

namespace NativeDeps.Yaml

theorem isGap_of_endsPlain
    {inFlow : Bool} {character : Char} {rest : List Char}
    (goesOn : endsPlain inFlow character rest = false) :
    isGap character = false := by
  simp only [endsPlain, Bool.or_eq_false_iff] at goesOn
  exact goesOn.1.1

/-- A character that does not end the scalar takes what is pending. -/
theorem scanPlain_cons
    {character : Char} {rest : List Char} {indent : Int}
    {position : Position} {pending : Pending}
    (goesOn : endsPlain false character rest = false)
    (noComment : character = '#' → pending.isEmpty = true)
    (indented : pending.hasBreak = true → indent ≤ position.column) :
    scanPlain false indent position pending (character :: rest) =
      (scanPlain false indent (position.step character) (.blanks [])
        rest).prepend (pending.meaning ++ [character]) := by
  rcases (isGap_eq_false_iff character).1 (isGap_of_endsPlain goesOn) with
    ⟨_, notSpace, noBreak⟩
  have noHash : (!pending.isEmpty && character == '#') = false := by
    by_cases isHash : character = '#'
    · simp [noComment isHash]
    · simp [isHash]
  have inBlock :
      (pending.hasBreak && !false &&
        decide ((position.column : Int) < indent)) = false := by
    cases broken : pending.hasBreak with
    | false => rfl
    | true => simpa using indented broken
  rw [scanPlain]
  simp only [beq_iff_eq, notSpace, noBreak, noHash, inBlock, goesOn,
    Bool.or_false, Bool.false_eq_true, if_false]

/--
Behind the blanks held back a text is read as the rest of a plain scalar with some
content, up to the end of its line, and another text opens the line after it.
-/
def ReadsPlain (held text content rest : List Char) : Prop :=
  ∀ position : Position,
    ∃ last,
      last.column = 0 ∧
        scanPlain false 1 position (.blanks held) text =
          ⟨content, rest, last, true⟩

namespace ReadsPlain

variable {held more content rest : List Char}

/-- A character that does not end the scalar takes what is held back. -/
theorem letter
    {character : Char} (goesOn : endsPlain false character more = false)
    (noComment : character = '#' → held = [])
    (reads : ReadsPlain [] more content rest) :
    ReadsPlain held (character :: more) (held ++ character :: content)
      rest := by
  intro position
  rcases reads (position.step character) with ⟨last, isStart, read⟩
  refine ⟨last, isStart, ?_⟩
  rw [scanPlain_cons goesOn, read]
  · simp [ScannedScalar.prepend, Pending.meaning]
  · intro isHash
    simp [noComment isHash, Pending.isEmpty]
  · intro broken
    exact Bool.noConfusion broken

theorem spaces
    (count : Nat)
    (reads :
      ReadsPlain (held ++ List.replicate count ' ') more content rest) :
    ReadsPlain held (List.replicate count ' ' ++ more) content rest := by
  induction count generalizing held with
  | zero => simpa using reads
  | succ count induction =>
      intro position
      have others :
          ReadsPlain (held ++ [' ']) (List.replicate count ' ' ++ more)
            content rest := by
        apply induction
        simpa [List.replicate_succ] using reads
      rcases others (position.step ' ') with ⟨last, isStart, read⟩
      refine ⟨last, isStart, ?_⟩
      rw [List.replicate_succ, List.cons_append, scanPlain]
      simpa [Pending.addBlank] using read

/-- A fold is read as one space, in front of a character that does not end the scalar. -/
theorem fold
    {character : Char} (goesOn : endsPlain false character more = false)
    (noComment : character ≠ '#')
    (reads : ReadsPlain [] more content rest) :
    ReadsPlain [] (newLine ++ character :: more) (' ' :: character :: content)
      rest := by
  intro position
  let indented := position.after newLine
  rcases reads (indented.step character) with ⟨last, isStart, read⟩
  refine ⟨last, isStart, ?_⟩
  have noMark : atDocumentMark (' ' :: ' ' :: character :: more) = false :=
    rfl
  have behind :
      scanPlain false 1 indented (.lines (some '\n') []) (character :: more) =
        ⟨' ' :: character :: content, rest, last, true⟩ := by
    rw [scanPlain_cons goesOn, read]
    · rfl
    · intro isHash
      exact absurd isHash noComment
    · intro _
      exact Int.ofNat_le.2 (Nat.le_succ 1)
  rw [← behind]
  simp [newLine, scanPlain, noMark, isBreak, Pending.addBreak,
    Pending.addBlank, indented, Position.after]

/-- A line end behind the last character ends the scalar. -/
theorem lineEnd (opens : opensLine rest = true) :
    ReadsPlain [] ('\n' :: rest) [] rest := by
  intro position
  refine ⟨position.step '\n', rfl, ?_⟩
  have column : (position.step '\n').column = 0 := rfl
  have isFeed : isBreak '\n' = true := by decide
  cases rest with
  | nil => rfl
  | cons character others =>
      have noGap := ((opensLine_cons_iff character others).1 opens).1
      rcases (isGap_eq_false_iff character).1 noGap with
        ⟨_, notSpace, noBreak⟩
      rw [scanPlain]
      by_cases isMark : atDocumentMark (character :: others)
      · simp [isFeed, isMark]
      · simp [isFeed, isMark, scanPlain, notSpace, noBreak,
          Pending.addBreak, Pending.hasBreak, column]

end ReadsPlain

/-! ## Texts that fit a plain scalar -/

/-- Whether a text can be written plain whatever it looks like. -/
def fitsPlain (characters : List Char) : Bool :=
  !hasOuterSpace characters && !characters.any isBreak &&
    !characters.any isSpecial && !hasIndicator characters

theorem allowsPlain_iff (characters : List Char) :
    allowsPlain characters = true ↔
      Tag.ofPlain characters = .text ∧ fitsPlain characters = true := by
  simp [allowsPlain, fitsPlain, and_assoc]

/-- No gap and no sign stands at the beginning of a text that fits. -/
theorem fitsPlain_cons
    {character : Char} {others : List Char}
    (fits : fitsPlain (character :: others) = true) :
    isGap character = false ∧
      isLeadingIndicator character others = false := by
  simp only [fitsPlain, hasOuterSpace, hasIndicator, List.head?_cons,
    List.any_cons, Bool.and_eq_true, Bool.not_eq_true', Bool.or_eq_false_iff,
    beq_eq_false_iff_ne] at fits
  obtain ⟨⟨⟨⟨notSpace, _⟩, noBreak, _⟩, ordinary, _⟩, ⟨_, noIndicator⟩, _⟩ :=
    fits
  refine ⟨isGap_of_not_isSpecial ordinary ?_ ?_, noIndicator⟩
  · rintro rfl
    exact notSpace rfl
  · rintro rfl
    exact Bool.noConfusion noBreak

/-- Any other character is written behind the spaces that were met. -/
theorem writePlain_cons
    {character : Char} (notSpace : character ≠ ' ') (spaces column : Nat)
    (others : List Char) :
    ∃ next,
      writePlain spaces column (character :: others) =
        (if foldsAt spaces column then newLine
          else List.replicate spaces ' ') ++
          character :: writePlain 0 next others := by
  rw [writePlain]
  by_cases folds : foldsAt spaces column
  · exact ⟨newLineColumn + 1, by simp [notSpace, folds]⟩
  · exact ⟨column + spaces + 1, by simp [notSpace, folds]⟩

theorem atGap_of_atGap_writePlain
    {column : Nat} {characters rest : List Char}
    (gap : atGap (writePlain 0 column characters ++ rest) = true) :
    atGap characters = true := by
  cases characters with
  | nil => rfl
  | cons character others =>
      by_cases isSpace : character = ' '
      · subst isSpace
        rfl
      · obtain ⟨next, written⟩ := writePlain_cons isSpace 0 column others
        rw [written] at gap
        exact gap

/-- The first character of a text stays no sign when what follows is written. -/
theorem isLeadingIndicator_writePlain
    {column : Nat} {character : Char} {others rest : List Char}
    (noIndicator : isLeadingIndicator character others = false) :
    isLeadingIndicator character (writePlain 0 column others ++ rest) =
      false := by
  simp only [isLeadingIndicator, Bool.or_eq_false_iff] at noIndicator ⊢
  refine ⟨noIndicator.1, ?_⟩
  cases gap : atGap (writePlain 0 column others ++ rest) with
  | false => exact Bool.and_false _
  | true => simpa [atGap_of_atGap_writePlain gap] using noIndicator.2

/-- A character that ends no text stays one when what follows is written. -/
theorem endsPlain_writePlain
    {column : Nat} {character : Char} {others rest : List Char}
    (noGap : isGap character = false)
    (noColon : character ≠ ':' ∨ atGap others = false) :
    endsPlain false character (writePlain 0 column others ++ rest) =
      false := by
  rcases noColon with notColon | notAtGap
  · simp [endsPlain, noGap, notColon]
  · have notAtEnd : atGap (writePlain 0 column others ++ rest) = false := by
      rw [← Bool.not_eq_true]
      intro atEnd
      rw [atGap_of_atGap_writePlain atEnd] at notAtGap
      exact Bool.noConfusion notAtGap
    simp [endsPlain, noGap, notAtEnd]

/-- What is written plain reads back, with the spaces that were met in front. -/
theorem readsPlain_writePlain
    (characters : List Char) {rest : List Char}
    (opens : opensLine rest = true)
    (inLine :
      ∀ character ∈ characters, character ≠ ' ' → isGap character = false)
    {afterGap : Bool}
    (noIndicator : hasInnerIndicator afterGap characters = false)
    {spaces : Nat} (gap : 0 < spaces → afterGap = true)
    (noLastSpace :
      (List.replicate spaces ' ' ++ characters).getLast? ≠ some ' ')
    (column : Nat) :
    ReadsPlain [] (writePlain spaces column characters ++ '\n' :: rest)
      (List.replicate spaces ' ' ++ characters) rest := by
  induction characters generalizing afterGap spaces column with
  | nil =>
      cases spaces with
      | zero => exact .lineEnd opens
      | succ spaces =>
          rw [List.append_nil, List.replicate_succ', List.getLast?_concat]
            at noLastSpace
          exact absurd rfl noLastSpace
  | cons character others induction =>
      simp only [hasInnerIndicator, isInnerIndicator, Bool.or_eq_false_iff,
        Bool.and_eq_false_iff, beq_eq_false_iff_ne] at noIndicator
      rcases noIndicator with ⟨⟨noColon, noComment⟩, noIndicator⟩
      have inLineOthers := fun other member =>
        inLine other (List.mem_cons_of_mem character member)
      by_cases isSpace : character = ' '
      · subst isSpace
        have moved :
            List.replicate spaces ' ' ++ ' ' :: others =
              List.replicate (spaces + 1) ' ' ++ others := by
          simp [List.replicate_succ']
        rw [moved] at noLastSpace ⊢
        exact induction inLineOthers noIndicator (fun _ => rfl) noLastSpace
          column
      · obtain ⟨next, written⟩ :=
          writePlain_cons isSpace spaces column others
        have noLastSpaceOthers : others.getLast? ≠ some ' ' := by
          intro last
          apply noLastSpace
          simp [List.getLast?_append, List.getLast?_cons, last]
        have reads :=
          @induction inLineOthers _ noIndicator 0 (fun impossible =>
            absurd impossible (Nat.lt_irrefl 0)) noLastSpaceOthers next
        have goesOn :
            endsPlain false character
              (writePlain 0 next others ++ '\n' :: rest) = false :=
          endsPlain_writePlain (inLine character (by simp) isSpace) noColon
        rw [written, List.append_assoc, List.cons_append]
        split
        · rename_i folds
          obtain rfl := eq_one_of_foldsAt folds
          refine .fold goesOn ?_ reads
          rcases noComment with notHash | notAfterGap
          · exact notHash
          · simp [gap] at notAfterGap
        · refine .spaces spaces (.letter goesOn ?_ reads)
          intro isHash
          cases spaces with
          | zero => rfl
          | succ spaces => simp [isHash, gap] at noComment

theorem readsPlain_of_fitsPlain
    {characters rest : List Char} (fits : fitsPlain characters = true)
    (opens : opensLine rest = true) (column : Nat) :
    ReadsPlain [] (writePlain 0 column characters ++ '\n' :: rest) characters
      rest := by
  simp only [fitsPlain, hasOuterSpace, Bool.and_eq_true, Bool.not_eq_true',
    List.any_eq_false, Bool.or_eq_false_iff, beq_eq_false_iff_ne] at fits
  rcases fits with ⟨⟨⟨⟨_, noLastSpace⟩, oneLine⟩, ordinary⟩, noIndicator⟩
  refine
    @readsPlain_writePlain characters rest opens ?_ true ?_ 0
      (fun _ => rfl) noLastSpace column
  · intro character member notSpace
    apply isGap_of_not_isSpecial _ notSpace
    · rintro rfl
      exact oneLine _ member rfl
    · simpa using ordinary character member
  · cases characters with
    | nil => rfl
    | cons character others =>
        simp only [hasIndicator, isLeadingIndicator, Bool.or_eq_false_iff]
          at noIndicator
        rcases noIndicator with ⟨⟨_, notLeading, notMark⟩, noInner⟩
        have notHash : character ≠ '#' := by
          rintro rfl
          exact absurd notLeading (by decide)
        by_cases isColon : character = ':'
        · subst isColon
          simpa [hasInnerIndicator, isInnerIndicator, noInner] using notMark
        · simp [hasInnerIndicator, isInnerIndicator, noInner, notHash,
            isColon]

end NativeDeps.Yaml
