import NativeDeps.Proofs.Yaml.DoubleQuoted
import NativeDeps.Proofs.Yaml.Key
import NativeDeps.Proofs.Yaml.SingleQuoted

/-!
# Texts as tokens

A text behind a key or a hyphen is one token, whichever way it is written, and behind
it the lexer is at the beginning of the next line.
-/

namespace NativeDeps.Yaml

/-- What a scalar says by a spelling. -/
def Content.ofSpelling (text : Spelling) : Content :=
  .ofCodes text.codes

theorem Content.ofSpelling_map_char (characters : List Char) :
    ofSpelling (characters.map .char) = .chars characters := by
  rw [ofSpelling, ofCodes, Spelling.charsOfCodes?_codes,
    Spelling.chars?_map_char]

/-- Whether a text is written plain. -/
def writesPlain (text : Spelling) : Bool :=
  text.chars?.any allowsPlain

theorem writesPlain_map_char (characters : List Char) :
    writesPlain (characters.map .char) = allowsPlain characters := by
  rw [writesPlain, Spelling.chars?_map_char, Option.any_some]

namespace Lexer

variable {position : Position} {tokens : List Token} {isOpen allowsKey : Bool}
  {candidate : Option Candidate} {rest : List Char}

/-- The quote on both sides of a scalar. -/
def quoteOf (isDouble : Bool) : Char :=
  if isDouble then '"' else '\''

theorem readQuoted_atMargin
    {kept : Option Candidate} {isDouble : Bool} {text : List Char}
    {content : Spelling} {last : Position}
    (saves :
      (atMargin position tokens isOpen allowsKey candidate
          (quoteOf isDouble :: text)).saveCandidate =
        .ok
          (atMargin position tokens isOpen allowsKey kept
            (quoteOf isDouble :: text)))
    (scans :
      scanQuoted isDouble .malformed (position.step (quoteOf isDouble))
          (.blanks []) 0 text =
        .ok ⟨content.codes, rest, last, false⟩) :
    (atMargin position tokens isOpen allowsKey candidate
        (quoteOf isDouble :: text)).readQuoted isDouble =
      .ok
        (atMargin last (.scalar (.ofSpelling content) false :: tokens) isOpen
          false kept rest) := by
  rw [readQuoted, saves]
  show (do
    let scanned ←
      scanQuoted isDouble .malformed (position.step (quoteOf isDouble))
        (.blanks []) 0 text
    _) = _
  rw [scans]
  rfl

theorem settle_space (opens : opensLine rest = true)
    (loose : isLoose candidate = true) :
    ∃ kept,
      isLoose kept = true ∧
        (atMargin position tokens isOpen allowsKey candidate
            (' ' :: rest)).settle =
          .ok
            (atMargin (position.step ' ') tokens isOpen allowsKey kept
              rest) := by
  obtain ⟨kept, keptLoose, refreshes⟩ :=
    refresh_of_isLoose loose (position.step ' ')
  refine ⟨kept, keptLoose, settle_atMargin ?_ refreshes⟩
  have noBreak : isBreak ' ' = false := by decide
  rw [skipGapFrom]
  simp [noBreak, skipGapFrom_of_opensLine opens]

/-- A token behind the margin need not be a key. -/
theorem saveCandidate_inLine (inner : 0 < position.column)
    (loose : isLoose candidate = true) :
    ∃ kept,
      isLoose kept = true ∧
        (atMargin position tokens isOpen allowsKey candidate
            rest).saveCandidate =
          .ok (atMargin position tokens isOpen allowsKey kept rest) := by
  cases allowsKey with
  | false => exact ⟨candidate, loose, rfl⟩
  | true =>
      obtain ⟨isRequired, notRequired, saves⟩ :=
        @saveCandidate_atMargin position tokens isOpen candidate rest loose
      refine ⟨_, ?_, saves⟩
      simp [isLoose, notRequired inner]

/-- Behind a space a token is read, whatever place is remembered for it. -/
theorem step_inLine
    {character : Char} {text after : List Char} {token : Token}
    {last : Position} {opens : Bool}
    (opensText : opensLine (character :: text) = true)
    (loose : isLoose candidate = true)
    (reads :
      ∀ kept saved,
        (atMargin (position.step ' ') tokens true allowsKey kept
            (character :: text)).saveCandidate =
          .ok
            (atMargin (position.step ' ') tokens true allowsKey saved
              (character :: text)) →
        (atMargin (position.step ' ') tokens true allowsKey kept
            (character :: text)).readToken character text =
          .ok (atMargin last (token :: tokens) true opens saved after))
    (shorter : after.length ≤ text.length) :
    ∃ saved,
      isLoose saved = true ∧
        Step
          (atMargin position tokens true allowsKey candidate
            (' ' :: character :: text))
          (atMargin last (token :: tokens) true opens saved after) := by
  obtain ⟨kept, keptLoose, settles⟩ :=
    @settle_space position tokens true allowsKey candidate _ opensText loose
  obtain ⟨saved, savedLoose, saves⟩ :=
    @saveCandidate_inLine (position.step ' ') tokens true allowsKey kept
      (character :: text) (Nat.succ_pos _) keptLoose
  refine
    ⟨saved, savedLoose, .read settles rfl (reads kept saved saves) rfl ?_⟩
  exact Nat.lt_of_le_of_lt shorter (Nat.lt_add_of_pos_right (Nat.succ_pos 1))

/-- A text that fits is read plain, with the end of its line. -/
theorem step_plain
    {characters : List Char} (fits : fitsPlain characters = true)
    (notEmpty : characters ≠ []) (opens : opensLine rest = true)
    (loose : isLoose candidate = true) (column : Nat) :
    ∃ next,
      Step
          (atMargin position tokens true allowsKey candidate
            (' ' :: (writePlain 0 column characters ++ '\n' :: rest)))
          next ∧
        AtLine next (.scalar (.chars characters) true :: tokens) true rest := by
  rcases List.exists_cons_of_ne_nil notEmpty with ⟨first, others, rfl⟩
  rcases fitsPlain_cons fits with ⟨noGap, noIndicator⟩
  have notSpace : first ≠ ' ' := by
    rintro rfl
    exact Bool.noConfusion noGap
  rcases writePlain_cons notSpace 0 column others with ⟨following, written⟩
  obtain ⟨last, isStart, scans⟩ :=
    readsPlain_of_fitsPlain fits opens column (position.step ' ')
  let more := writePlain 0 following others ++ '\n' :: rest
  have begins :
      writePlain 0 column (first :: others) ++ '\n' :: rest =
        first :: more := by
    rw [written]
    rfl
  rw [begins] at scans ⊢
  have noSign : isLeadingIndicator first more = false :=
    isLeadingIndicator_writePlain noIndicator
  have opensText : opensLine (first :: more) = true := by
    have notHash : first ≠ '#' := by
      rintro rfl
      exact Bool.noConfusion noSign
    simp [opensLine, noGap, notHash]
  have inLine : (position.step ' ').column ≠ 0 := Nat.succ_ne_zero _
  have isPlain (kept : Option Candidate) :
      (atMargin (position.step ' ') tokens true allowsKey kept
          (first :: more)).readToken first more =
        (atMargin (position.step ' ') tokens true allowsKey kept
          (first :: more)).readPlain :=
    readToken_eq_readPlain rfl noGap noSign fun isStart =>
      absurd isStart inLine
  have shorter : rest.length ≤ more.length := by
    simp only [more, List.length_append, List.length_cons]
    omega
  obtain ⟨saved, savedLoose, step⟩ :=
    step_inLine opensText loose
      (fun kept _ saves => (isPlain kept).trans (readPlain_atMargin saves scans))
      shorter
  exact ⟨_, step, atLine_of_opensLine opens isStart savedLoose⟩

/-- A text between quotes is read up to the end of its line. -/
theorem step_quoted
    {isDouble : Bool} {written : List Char} {content : Spelling}
    (reads :
      ReadsQuoted isDouble (.blanks []) (written ++ '\n' :: rest) content
        ('\n' :: rest))
    (opens : opensLine rest = true) (loose : isLoose candidate = true) :
    ∃ next,
      Step
          (atMargin position tokens true allowsKey candidate
            (' ' :: quoteOf isDouble :: (written ++ '\n' :: rest)))
          next ∧
        AtLine next (.scalar (.ofSpelling content) false :: tokens) true
          rest := by
  let text := written ++ '\n' :: rest
  have opensText : opensLine (quoteOf isDouble :: text) = true := by
    cases isDouble <;> rfl
  obtain ⟨last, scans⟩ :=
    reads .malformed ((position.step ' ').step (quoteOf isDouble))
  have isQuoted (kept : Option Candidate) :
      (atMargin (position.step ' ') tokens true allowsKey kept
          (quoteOf isDouble :: text)).readToken (quoteOf isDouble) text =
        (atMargin (position.step ' ') tokens true allowsKey kept
          (quoteOf isDouble :: text)).readQuoted isDouble := by
    cases isDouble <;> simp [readToken, quoteOf]
  have shorter : ('\n' :: rest).length ≤ text.length := by
    rw [List.length_append]
    exact Nat.le_add_left _ _
  obtain ⟨saved, savedLoose, step⟩ :=
    step_inLine opensText loose
      (fun kept _ saves =>
        (isQuoted kept).trans (readQuoted_atMargin saves scans))
      shorter
  exact ⟨_, step, atLine_of_lineEnd opens savedLoose⟩

theorem writeText_eq_cons (column : Nat) (text : Spelling) :
    ∃ more, writeText column text = ' ' :: more := by
  rw [writeText]
  split
  · split
    · exact ⟨_, rfl⟩
    · split <;> exact ⟨_, rfl⟩
  · exact ⟨_, rfl⟩

/-- A text behind a key or a hyphen is read with its line. -/
theorem step_text
    (text : Spelling) (opens : opensLine rest = true)
    (loose : isLoose candidate = true) (column : Nat) :
    ∃ next,
      Step
          (atMargin position tokens true allowsKey candidate
            (writeText column text ++ '\n' :: rest))
          next ∧
        AtLine next (.scalar (.ofSpelling text) (writesPlain text) :: tokens)
          true rest := by
  have readsBetweenDouble :=
    readsDouble text ('\n' :: rest) (.blanks []) (fun _ => rfl) true false
      (column + 2)
  rw [writeText]
  cases whole : text.chars? with
  | none =>
      have notPlain : writesPlain text = false := by
        rw [writesPlain, whole, Option.any_none]
      rw [notPlain]
      exact @step_quoted _ _ _ _ _ true _ _ readsBetweenDouble opens loose
  | some characters =>
      obtain rfl := Spelling.chars?_eq_some_iff.1 whole
      simp only [writesPlain_map_char]
      split
      · rename_i plain
        rcases (allowsPlain_iff characters).1 plain with ⟨isText, fits⟩
        have notEmpty : characters ≠ [] := by
          rintro rfl
          exact absurd isText (by decide)
        rw [plain, Content.ofSpelling_map_char]
        exact step_plain fits notEmpty opens loose _
      · rename_i notPlain
        rw [Bool.not_eq_true] at notPlain
        rw [notPlain]
        split
        · rename_i single
          simp only [allowsSingle, Bool.and_eq_true, Bool.not_eq_true',
            List.any_eq_false, Bool.not_eq_true] at single
          have reads :=
            @readsQuoted_writeSingle characters ('\n' :: rest) (by simp)
              (.spaces 0) (by simp) single.1 single.2 true (column + 2)
          exact @step_quoted _ _ _ _ _ false _ _ reads opens loose
        · exact @step_quoted _ _ _ _ _ true _ _ readsBetweenDouble opens loose

theorem step_null (opens : opensLine rest = true)
    (loose : isLoose candidate = true) :
    ∃ next,
      Step
          (atMargin position tokens true allowsKey candidate
            (" null".toList ++ '\n' :: rest))
          next ∧
        AtLine next (.scalar (.chars "null".toList) true :: tokens) true
          rest := by
  have fits : fitsPlain "null".toList = true := by decide
  exact step_plain fits (by decide) opens loose 0

end Lexer

end NativeDeps.Yaml
