import Mathlib.Tactic.SplitIfs
import NativeDeps.Proofs.Yaml.Character
import NativeDeps.Proofs.Yaml.Escape

/-!
# Quoted scalars read back

The reader of quoted scalars carries what it has met but not yet taken: blanks, which
count if the scalar goes on in the same line, and line ends, which are folded.  One rule
for each thing that the writers put down says how it is read behind any such state.
-/

namespace NativeDeps.Yaml

/--
Behind the pending characters a text is read as the rest of a quoted scalar with some
content, and another text follows it.
-/
def ReadsQuoted (isDouble : Bool) (pending : Pending)
    (text : List Char) (content : Spelling) (rest : List Char) : Prop :=
  ∀ (ending : Fault) (position : Position),
    ∃ last,
      scanQuoted isDouble ending position pending 0 text =
        .ok ⟨content.codes, rest, last, false⟩

/-- What is pending, as a part of the content. -/
def Pending.spelling (pending : Pending) : Spelling :=
  pending.meaning.map .char

@[simp]
theorem Pending.codes_spelling (pending : Pending) :
    pending.spelling.codes = pending.meaning.map Char.toNat :=
  Spelling.codes_map_char pending.meaning

/-- Whether a character stands for itself between quotes of a kind. -/
def isLetter (isDouble : Bool) (character : Char) : Bool :=
  !isGap character &&
    !(if isDouble then character == '"' || character == '\\'
      else character == '\'')

namespace ReadsQuoted

variable {isDouble : Bool} {pending : Pending} {more rest : List Char}
  {content : Spelling}

theorem map_prepend
    {result : Except Fault (ScannedScalar Nat)} {units : List Nat}
    {last : Position}
    (read : result = .ok ⟨content.codes, rest, last, false⟩) :
    result.map (·.prepend units) =
      .ok ⟨units ++ content.codes, rest, last, false⟩ := by
  rw [read]
  rfl

attribute [simp] scanQuoted

/-- A character that stands for itself takes what is pending. -/
theorem letter
    {character : Char} (plain : isLetter isDouble character = true)
    (reads : ReadsQuoted isDouble (.blanks []) more content rest) :
    ReadsQuoted isDouble pending (character :: more)
      (pending.spelling ++ .char character :: content) rest := by
  intro ending position
  rcases reads ending (position.step character) with ⟨last, read⟩
  refine ⟨last, ?_⟩
  simp only [isLetter, Bool.and_eq_true, Bool.not_eq_true'] at plain
  rcases plain with ⟨noGap, notSign⟩
  rcases (isGap_eq_false_iff character).1 noGap with
    ⟨notTab, notSpace, noBreak⟩
  cases isDouble with
  | false =>
      have notQuote : character ≠ '\'' := by simpa using notSign
      simp [notTab, notSpace, noBreak, notQuote, map_prepend read]
  | true =>
      have neither : character ≠ '"' ∧ character ≠ '\\' := by
        simpa using notSign
      simp [notTab, notSpace, noBreak, neither, map_prepend read]

theorem blank
    (reads : ReadsQuoted isDouble (pending.addBlank ' ') more content rest) :
    ReadsQuoted isDouble pending (' ' :: more) content rest := by
  intro ending position
  rcases reads ending (position.step ' ') with ⟨last, read⟩
  refine ⟨last, ?_⟩
  simpa using read

/-- A line end is pending; no document mark may follow it. -/
theorem lineEnd
    (noMark : atDocumentMark more = false)
    (reads : ReadsQuoted isDouble (pending.addBreak '\n') more content rest) :
    ReadsQuoted isDouble pending ('\n' :: more) content rest := by
  intro ending position
  rcases reads ending (position.step '\n') with ⟨last, read⟩
  refine ⟨last, ?_⟩
  simpa [noMark, isBreak] using read

theorem closeSingle (notDoubled : rest.head? ≠ some '\'') :
    ReadsQuoted false pending ('\'' :: rest) pending.spelling rest := by
  intro ending position
  refine ⟨position.step '\'', ?_⟩
  simp [notDoubled, isBreak]

theorem doubledQuote
    (reads : ReadsQuoted false (.blanks []) more content rest) :
    ReadsQuoted false pending ('\'' :: '\'' :: more)
      (pending.spelling ++ .char '\'' :: content) rest := by
  intro ending position
  obtain ⟨last, read⟩ :=
    reads ending ((position.step '\'').step '\'')
  refine ⟨last, ?_⟩
  simp [isBreak, map_prepend read]

theorem closeDouble :
    ReadsQuoted true pending ('"' :: rest) pending.spelling rest := by
  intro ending position
  refine ⟨position.step '"', ?_⟩
  simp [isBreak]

/-- The characters of an escape that have been read are passed over. -/
theorem scanQuoted_skip
    (ending : Fault) (position : Position) (passed : List Char) :
    scanQuoted isDouble ending position pending passed.length
        (passed ++ more) =
      scanQuoted isDouble ending (position.after passed) pending 0 more := by
  induction passed generalizing position with
  | nil => rfl
  | cons character others induction =>
      rw [List.cons_append, List.length_cons, scanQuoted, induction]
      rfl

/-- An escape of one sign stands for the character that the sign names. -/
theorem shortEscape
    {sign meant : Char} (names : shortEscapes.lookup sign = some meant)
    (reads : ReadsQuoted true (.blanks []) more content rest) :
    ReadsQuoted true pending ('\\' :: sign :: more)
      (pending.spelling ++ .char meant :: content) rest := by
  intro ending position
  obtain ⟨last, read⟩ :=
    reads ending ((position.step '\\').step sign)
  refine ⟨last, ?_⟩
  simp [isBreak, names, map_prepend read]

/-- An escape of a code point stands for its letter. -/
theorem codeEscape
    {sign : Char} {letter : Letter} {width : Nat}
    (noShortEscape : shortEscapes.lookup sign = none)
    (noBreak : isBreak sign = false)
    (hasWidth : codeLength? sign = some width) (positive : 0 < width)
    (fits : letter.code < 16 ^ width)
    (reads : ReadsQuoted true (.blanks []) more content rest) :
    ReadsQuoted true pending
      ('\\' :: sign :: (Text.capitalHex width letter.code ++ more))
      (pending.spelling ++ letter :: content) rest := by
  intro ending position
  obtain ⟨last, read⟩ :=
    reads ending
      (((position.step '\\').step sign).after
        (Text.capitalHex width letter.code))
  refine ⟨last, ?_⟩
  have passed :
      scanQuoted true ending ((position.step '\\').step sign) (.blanks [])
          width (Text.capitalHex width letter.code ++ more) =
        .ok ⟨content.codes, rest, last, false⟩ := by
    rw [← read, ← scanQuoted_skip, length_capitalHex positive fits]
  have backslash : isBreak '\\' = false := by decide
  simp [backslash, noShortEscape, noBreak, hasWidth,
    takeCode_capitalHex ending more positive fits, map_prepend passed]

theorem escapedCode
    (letter : Letter)
    (reads : ReadsQuoted true (.blanks []) more content rest) :
    ReadsQuoted true pending (Yaml.escapedCode letter.code ++ more)
      (pending.spelling ++ letter :: content) rest := by
  have isCode := letter.code_lt_codePoints
  rw [Yaml.escapedCode]
  split_ifs with isByte isShort
  · exact codeEscape (by decide) (by decide) rfl (by decide)
      (by omega) reads
  · exact codeEscape (by decide) (by decide) rfl (by decide)
      (by omega) reads
  · exact codeEscape (by decide) (by decide) rfl (by decide)
      (by omega) reads

/-- A letter that is written as an escape is read back. -/
theorem escape
    (letter : Letter)
    (reads : ReadsQuoted true (.blanks []) more content rest) :
    ReadsQuoted true pending (escaped letter ++ more)
      (pending.spelling ++ letter :: content) rest := by
  cases letter with
  | half place => exact escapedCode (.half place) reads
  | char character =>
      rw [escaped]
      split
      · rename_i sign written
        exact shortEscape (lookup_shortEscapes_of_written written) reads
      · exact escapedCode (.char character) reads

/-- An escaped line end takes what is pending, and the indentation behind it is lost. -/
theorem escapedLineEnd
    (reads : ReadsQuoted true (.lines none []) more content rest) :
    ReadsQuoted true pending ('\\' :: (newLine ++ more))
      (pending.spelling ++ content) rest := by
  intro ending position
  obtain ⟨last, read⟩ :=
    reads ending ((((position.step '\\').step '\n').step ' ').step ' ')
  refine ⟨last, ?_⟩
  have noEscape : shortEscapes.lookup '\n' = none := by decide
  simp [Yaml.newLine, isBreak, noEscape, atDocumentMark, Pending.addBlank,
    map_prepend read]

theorem spaces
    (count : Nat) {held : List Char}
    (reads :
      ReadsQuoted isDouble (.blanks (held ++ List.replicate count ' ')) more
        content rest) :
    ReadsQuoted isDouble (.blanks held) (List.replicate count ' ' ++ more)
      content rest := by
  induction count generalizing held with
  | zero => simpa using reads
  | succ count induction =>
      rw [List.replicate_succ, List.cons_append]
      refine blank (induction ?_)
      simpa [List.replicate_succ] using reads

theorem lineEnds
    (count : Nat) {first : Option Char} {others : List Char}
    (noMark : atDocumentMark more = false)
    (reads :
      ReadsQuoted isDouble
        (.lines first (others ++ List.replicate count '\n')) more content
        rest) :
    ReadsQuoted isDouble (.lines first others)
      (List.replicate count '\n' ++ more) content rest := by
  induction count generalizing others with
  | zero => simpa using reads
  | succ count induction =>
      rw [List.replicate_succ, List.cons_append]
      refine lineEnd ?_ (induction ?_)
      · cases count with
        | zero => exact noMark
        | succ count => rfl
      · simpa [List.replicate_succ] using reads

/-- Of a new line its end is pending, and its indentation is lost. -/
theorem newLine
    (reads : ReadsQuoted isDouble (pending.addBreak '\n') more content rest) :
    ReadsQuoted isDouble pending (Yaml.newLine ++ more) content rest := by
  refine lineEnd rfl (blank (blank ?_))
  cases pending <;> exact reads

end ReadsQuoted

end NativeDeps.Yaml
