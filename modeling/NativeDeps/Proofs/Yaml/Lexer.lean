import Mathlib.Logic.Relation
import NativeDeps.Proofs.Yaml.Character
import NativeDeps.Yaml.Token.OfText

/-!
# Runs of the lexer

What the lexer makes of a text is the sum of its steps, each of which reads one token.
A text without nested blocks keeps it in a simple state: at most one block is open, at
the margin, no flow collection is, and only the next colon can need the place that was
remembered.
-/

namespace NativeDeps.Yaml

namespace Lexer

/-- The lexer goes on to the next token and reads it; some of the text is taken. -/
inductive Step : Lexer → Lexer → Prop
  | read {lexer settled next : Lexer} {character : Char} {rest : List Char}
      (settles : lexer.settle = .ok settled)
      (goesOn : settled.rest = character :: rest)
      (reads : settled.readToken character rest = .ok next)
      (isWhole : next.ending = none)
      (shorter : next.rest.length < lexer.rest.length) :
      Step lexer next

theorem cutOff_of_isWhole {lexer : Lexer} (isWhole : lexer.ending = none) :
    lexer.cutOff = none := by
  rw [cutOff, isWhole, ite_self]

/-- Steps to a state that ends the text are a run, whatever fuel is left over. -/
theorem run_of_steps
    {lexer last settled : Lexer} {tokens : List Token}
    (steps : Relation.ReflTransGen Step lexer last)
    (settles : last.settle = .ok settled) (isOver : settled.rest = [])
    (finishes : settled.finish = .ok tokens) :
    ∀ fuel, lexer.rest.length < fuel → run fuel lexer = ⟨tokens, none⟩ := by
  induction steps using Relation.ReflTransGen.head_induction_on with
  | refl =>
      intro fuel enough
      cases fuel with
      | zero => exact absurd enough (Nat.not_lt_zero _)
      | succ fuel => simp only [run, settles, isOver, finishes]
  | head step _ induction =>
      intro fuel enough
      cases fuel with
      | zero => exact absurd enough (Nat.not_lt_zero _)
      | succ fuel =>
          rcases step with ⟨settlesFirst, goesOn, reads, isWhole, shorter⟩
          simp only [run, settlesFirst, goesOn, reads,
            cutOff_of_isWhole isWhole]
          exact induction fuel (by omega)

/-- Whether a candidate, if there is one, need not be a key. -/
def isLoose (candidate : Option Candidate) : Bool :=
  candidate.all fun candidate => !candidate.isRequired

/-- The lexer outside of flow collections and of blocks that are not at the margin. -/
def atMargin (position : Position) (tokens : List Token)
    (isOpen allowsKey : Bool) (candidate : Option Candidate)
    (rest : List Char) : Lexer where
  rest := rest
  ending := none
  position := position
  tokens := tokens
  count := tokens.length
  indents := if isOpen then [0] else []
  allowsKey := allowsKey
  candidate := candidate
  outer := []

variable {position : Position} {tokens : List Token} {isOpen allowsKey : Bool}
  {candidate : Option Candidate} {rest : List Char}

theorem refresh_of_isLoose (loose : isLoose candidate = true)
    (position : Position) :
    ∃ kept, isLoose kept = true ∧ refresh position candidate = .ok kept := by
  cases candidate with
  | none => exact ⟨none, rfl, rfl⟩
  | some candidate =>
      have notRequired : candidate.isRequired = false := by
        simpa [isLoose] using loose
      by_cases stale : isStale position candidate
      · exact ⟨none, rfl, by simp [refresh, stale, notRequired]⟩
      · exact ⟨some candidate, loose, by simp [refresh, stale]⟩

@[simp]
theorem dropCandidate_atMargin (loose : isLoose candidate = true) :
    (atMargin position tokens isOpen allowsKey candidate rest).dropCandidate =
      .ok (atMargin position tokens isOpen allowsKey none rest) := by
  cases candidate with
  | none => rfl
  | some candidate =>
      rcases candidate with ⟨count, isRequired, place⟩
      cases isRequired with
      | true => exact absurd loose (by simp [isLoose])
      | false => rfl

@[simp]
theorem indent_atMargin :
    (atMargin position tokens isOpen allowsKey candidate rest).indent =
      if isOpen then 0 else -1 := by
  cases isOpen <;> rfl

@[simp]
theorem unwind_atMargin (column : Nat) :
    (atMargin position tokens isOpen allowsKey candidate rest).unwind column =
      atMargin position tokens isOpen allowsKey candidate rest := by
  cases isOpen <;> simp [unwind, inFlow, atMargin, unwindFrom]

/-- Behind a gap the lexer settles, if the candidate is still good there. -/
theorem settle_atMargin
    {text : List Char} {next : Position} {opens : Bool}
    {kept : Option Candidate}
    (passes :
      skipGapFrom false position allowsKey false text = (next, opens, rest))
    (refreshes : refresh next candidate = .ok kept) :
    (atMargin position tokens isOpen allowsKey candidate text).settle =
      .ok (atMargin next tokens isOpen opens kept rest) := by
  have skipped :
      (atMargin position tokens isOpen allowsKey candidate text).skipGap =
        atMargin next tokens isOpen opens candidate rest := by
    simp only [skipGap, inFlow, atMargin, List.isEmpty_nil, Bool.not_true,
      passes]
  have notCut :
      (atMargin next tokens isOpen opens candidate rest).cutOff = none :=
    cutOff_of_isWhole rfl
  have refreshed :
      (atMargin next tokens isOpen opens candidate rest).refreshAll =
        .ok (atMargin next tokens isOpen opens kept rest) := by
    simp only [refreshAll, atMargin, refreshes]
    rfl
  rw [settle, skipped, notCut]
  simp only [refreshed]
  exact congrArg Except.ok (unwind_atMargin next.column)

/-- Where a key is allowed the place is remembered, and it must be one at the margin. -/
theorem saveCandidate_atMargin (loose : isLoose candidate = true) :
    ∃ isRequired,
      (0 < position.column → isRequired = false) ∧
        (atMargin position tokens isOpen true candidate rest).saveCandidate =
          .ok
            (atMargin position tokens isOpen true
              (some ⟨tokens.length, isRequired, position⟩) rest) := by
  let lexer := atMargin position tokens isOpen true candidate rest
  refine ⟨!lexer.inFlow && lexer.indent == (position.column : Int), ?_, ?_⟩
  · intro inner
    have deeper : lexer.indent ≠ (position.column : Int) := by
      rw [indent_atMargin]
      split <;> omega
    simp [deeper]
  · have dropped :
        lexer.dropCandidate =
          .ok (atMargin position tokens isOpen true none rest) :=
      dropCandidate_atMargin loose
    show lexer.saveCandidate = _
    rw [saveCandidate, dropped]
    rfl

/-! ## Lines -/

/-- The lexer settles at the beginning of a line, with a text at the margin. -/
def AtLine (lexer : Lexer) (tokens : List Token) (isOpen : Bool)
    (rest : List Char) : Prop :=
  rest.length ≤ lexer.rest.length ∧
    ∃ position candidate,
      position.column = 0 ∧ isLoose candidate = true ∧
        lexer.settle =
          .ok (atMargin position tokens isOpen true candidate rest)

theorem skipGapFrom_of_opensLine (opens : opensLine rest = true)
    (inFlow : Bool) :
    skipGapFrom inFlow position allowsKey false rest =
      (position, allowsKey, rest) := by
  cases rest with
  | nil => rfl
  | cons character others =>
      rcases (opensLine_cons_iff character others).1 opens with
        ⟨noGap, notHash⟩
      rcases (isGap_eq_false_iff character).1 noGap with
        ⟨_, notSpace, noBreak⟩
      simp [skipGapFrom, notSpace, noBreak, notHash]

theorem atLine_of_opensLine (opens : opensLine rest = true)
    (isStart : position.column = 0) (loose : isLoose candidate = true) :
    AtLine (atMargin position tokens isOpen true candidate rest) tokens isOpen
      rest := by
  rcases refresh_of_isLoose loose position with ⟨kept, keptLoose, refreshes⟩
  exact
    ⟨Nat.le_refl _, position, kept, isStart, keptLoose,
      settle_atMargin (skipGapFrom_of_opensLine opens false) refreshes⟩

/-- A line end is left, and a new line may begin with a key. -/
theorem atLine_of_lineEnd (opens : opensLine rest = true)
    (loose : isLoose candidate = true) :
    AtLine (atMargin position tokens isOpen allowsKey candidate ('\n' :: rest))
      tokens isOpen rest := by
  obtain ⟨kept, keptLoose, refreshes⟩ :=
    refresh_of_isLoose loose (position.step '\n')
  refine
    ⟨Nat.le_succ _, position.step '\n', kept, rfl, keptLoose,
      settle_atMargin ?_ refreshes⟩
  have isFeed : isBreak '\n' = true := by decide
  rw [skipGapFrom]
  simp [isFeed, skipGapFrom_of_opensLine opens]

/-- Behind its last line a text is over, and the block that is open ends with it. -/
theorem run_of_atLine
    {lexer last : Lexer} (steps : Relation.ReflTransGen Step lexer last)
    (isLast : AtLine last tokens true []) {fuel : Nat}
    (enough : lexer.rest.length < fuel) :
    run fuel lexer = ⟨(.textEnd :: .blockEnd :: tokens).reverse, none⟩ := by
  rcases isLast with ⟨_, position, candidate, _, loose, settles⟩
  refine run_of_steps steps settles rfl ?_ fuel enough
  have closed :
      (atMargin position tokens true true candidate []).unwind (-1) =
        atMargin position (.blockEnd :: tokens) false true candidate [] := rfl
  rw [finish, closed, dropCandidate_atMargin loose]
  rfl

/-! ## Tokens at the margin -/

/-- A hyphen at the margin opens no block of its own. -/
theorem step_entry
    {lexer : Lexer} (atLine : AtLine lexer tokens true ('-' :: ' ' :: rest)) :
    ∃ position,
      Step lexer
        (atMargin position (.entry :: tokens) true true none
          (' ' :: rest)) := by
  rcases atLine with ⟨shorter, position, candidate, isStart, loose, settles⟩
  refine ⟨position.step '-', .read settles rfl ?_ rfl shorter⟩
  let lexer := atMargin position tokens true true candidate ('-' :: ' ' :: rest)
  have isEntry : lexer.readToken '-' (' ' :: rest) = lexer.readEntry := by
    simp [readToken, atDocumentMark, atGap, isGap, isSpaceOrBreak]
  have notNew : lexer.opensBlock position.column = false := by
    simp [opensBlock, lexer, isStart]
  have opened : lexer.openBlock .blockListStart = lexer :=
    if_neg (Bool.not_eq_true _ ▸ notNew)
  have dropped :
      lexer.dropCandidate =
        .ok
          (atMargin position tokens true true none
            ('-' :: ' ' :: rest)) :=
    dropCandidate_atMargin loose
  show lexer.readToken '-' (' ' :: rest) = _
  rw [isEntry, readEntry, opened, ite_self]
  simp only [dropped]
  rfl

/-- A character that no token but a plain scalar begins with begins one. -/
theorem readToken_eq_readPlain
    {lexer : Lexer} {character : Char} (noFlow : lexer.inFlow = false)
    (noGap : isGap character = false)
    (noIndicator : isLeadingIndicator character rest = false)
    (noMark :
      lexer.position.column = 0 →
        atDocumentMark (character :: rest) = false) :
    lexer.readToken character rest = lexer.readPlain := by
  simp only [isLeadingIndicator, leadingIndicators, List.contains_cons,
    List.contains_nil, Bool.or_false, Bool.or_eq_false_iff,
    beq_eq_false_iff_ne] at noIndicator
  rcases noIndicator with ⟨notLeading, notMark⟩
  have noDocument (sign : Char) :
      (lexer.position.column == 0 && character == sign &&
        atDocumentMark (character :: rest)) = false := by
    by_cases isStart : lexer.position.column = 0
    · rw [noMark isStart, Bool.and_false]
    · simp [isStart]
  have noFlowSign : isFlowIndicator character = false := by
    simp [isFlowIndicator, notLeading]
  simp only [readToken, noDocument, Bool.false_eq_true, if_false]
  cases gap : atGap rest with
  | true =>
      rw [gap, Bool.and_true] at notMark
      simp only [Bool.or_eq_false_iff, beq_eq_false_iff_ne] at notMark
      simp [startsPlain, noFlow, noGap, notLeading, noFlowSign, notMark]
  | false =>
      by_cases isMark : character = '-' ∨ character = '?' ∨ character = ':'
      · simp [startsPlain, noFlow, notLeading, gap, isMark]
      · simp only [not_or] at isMark
        simp [startsPlain, noFlow, noGap, notLeading, noFlowSign, gap, isMark]

end Lexer

end NativeDeps.Yaml
