import NativeDeps.Proofs.Yaml.Lexer
import NativeDeps.Proofs.Yaml.PlainScalar

/-!
# Keys at the margin

A key is known as one only at its colon, which puts its mark in front of it.  A short
word of small letters is read whole, and is still remembered when the colon is met.
-/

namespace NativeDeps.Yaml

def isSmallLetter (character : Char) : Bool :=
  'a' ≤ character && character ≤ 'z'

/-- Whether a text is a word of small letters that is short enough for a key. -/
def isKeyWord (characters : List Char) : Bool :=
  !characters.isEmpty && characters.length ≤ 1024 &&
    characters.all isSmallLetter

theorem ne_of_isSmallLetter
    {character : Char} (letter : isSmallLetter character = true)
    {sign : Char} (noLetter : isSmallLetter sign = false) :
    character ≠ sign := by
  rintro rfl
  rw [letter] at noLetter
  exact Bool.noConfusion noLetter

theorem isSpecial_of_isSmallLetter
    {character : Char} (letter : isSmallLetter character = true) :
    isSpecial character = false := by
  simp only [isSmallLetter, Bool.and_eq_true, decide_eq_true_eq] at letter
  rcases letter with ⟨least, most⟩
  have above : 97 ≤ character.toNat := least
  have below : character.toNat ≤ 122 := most
  simp only [isSpecial, Bool.not_eq_false', Bool.or_eq_true, beq_iff_eq,
    Bool.and_eq_true, decide_eq_true_eq]
  omega

theorem isGap_of_isSmallLetter
    {character : Char} (letter : isSmallLetter character = true) :
    isGap character = false :=
  isGap_of_not_isSpecial (isSpecial_of_isSmallLetter letter)
    (ne_of_isSmallLetter letter (by decide))
    (ne_of_isSmallLetter letter (by decide))

theorem isLeadingIndicator_of_isSmallLetter
    {character : Char} (letter : isSmallLetter character = true)
    (rest : List Char) :
    isLeadingIndicator character rest = false := by
  let signs := '?' :: ':' :: '-' :: leadingIndicators
  have noLetters : signs.all (!isSmallLetter ·) = true := by decide
  have noSign : character ∉ signs := by
    intro member
    simpa [letter] using List.all_eq_true.1 noLetters character member
  simp only [signs, List.mem_cons, not_or] at noSign
  simp [isLeadingIndicator, noSign]

theorem after_of_isSmallLetter
    {word : List Char}
    (letters : ∀ character ∈ word, isSmallLetter character = true)
    (position : Position) :
    position.after word =
      ⟨position.index + word.length, position.line,
        position.column + word.length⟩ := by
  induction word generalizing position with
  | nil => rfl
  | cons character others induction =>
      have letter := letters character (by simp)
      have noGap := isGap_of_isSmallLetter letter
      have stepped :=
        Position.step_inLine ((isGap_eq_false_iff character).1 noGap).2.2
          (ne_of_isSmallLetter letter (by decide)) position
      have others :=
        induction (fun other member =>
          letters other (List.mem_cons_of_mem character member))
          (position.step character)
      rw [stepped] at others
      rw [Position.after, List.foldl_cons, stepped]
      show Position.after _ _ = _
      rw [others]
      simp [Nat.add_assoc, Nat.add_comm 1]

/-- A word of small letters in front of a colon is a plain scalar. -/
theorem scanPlain_of_isSmallLetter
    {word more : List Char}
    (letters : ∀ character ∈ word, isSmallLetter character = true)
    (gap : atGap more = true) (indent : Int) (position : Position) :
    scanPlain false indent position (.blanks []) (word ++ ':' :: more) =
      ⟨word, ':' :: more, position.after word, false⟩ := by
  induction word generalizing position with
  | nil =>
      have isBreakColon : isBreak ':' = false := by decide
      simp [scanPlain, isBreakColon, Pending.isEmpty, Pending.hasBreak,
        endsPlain, gap, Position.after]
  | cons character others induction =>
      have letter := letters character (by simp)
      have noGap := isGap_of_isSmallLetter letter
      have notColon : character ≠ ':' :=
        ne_of_isSmallLetter letter (by decide)
      have goesOn :
          endsPlain false character (others ++ ':' :: more) = false := by
        simp [endsPlain, noGap, notColon]
      have read :=
        induction (fun other member =>
          letters other (List.mem_cons_of_mem character member))
          (position.step character)
      rw [List.cons_append, scanPlain_cons goesOn, read]
      · rfl
      · intro _
        rfl
      · intro broken
        exact Bool.noConfusion broken

namespace Lexer

open Relation

variable {position : Position} {tokens : List Token} {isOpen allowsKey : Bool}
  {candidate : Option Candidate} {rest : List Char}

theorem readPlain_atMargin
    {kept : Option Candidate} {text : List Char}
    {scanned : ScannedScalar Char}
    (saves :
      (atMargin position tokens isOpen allowsKey candidate text).saveCandidate =
        .ok (atMargin position tokens isOpen allowsKey kept text))
    (scans :
      scanPlain false (if isOpen then 1 else 0) position (.blanks []) text =
        scanned) :
    (atMargin position tokens isOpen allowsKey candidate text).readPlain =
      .ok
        (atMargin scanned.position
          (.scalar (.chars scanned.content) true :: tokens) isOpen
          scanned.brokeLine kept scanned.rest) := by
  have indented :
      (atMargin position tokens isOpen allowsKey kept text).indent + 1 =
        if isOpen then 1 else 0 := by
    cases isOpen <;> rfl
  have noFlow :
      (atMargin position tokens isOpen allowsKey kept text).inFlow = false :=
    rfl
  rw [readPlain, saves]
  subst scans
  rw [← noFlow, ← indented]
  rfl

/-- The tokens in front of a key, with the mapping that the first key opens. -/
def beforeKey (isOpen : Bool) (tokens : List Token) : List Token :=
  if isOpen then tokens else .blockMappingStart :: tokens

/-- A candidate at the margin becomes a key, and the first one opens the mapping. -/
theorem confirmKey_atMargin
    {place : Position} (isStart : place.column = 0) (isRequired : Bool)
    (token : Token) :
    (atMargin position (token :: tokens) isOpen allowsKey candidate
        rest).confirmKey ⟨tokens.length, isRequired, place⟩ =
      atMargin position (token :: .key :: beforeKey isOpen tokens) true false
        none rest := by
  cases isOpen <;>
    simp [confirmKey, inFlow, opensBlock, isStart, atMargin, indent, insertAt,
      beforeKey]

/-- A word at the margin is read whole, and where it begins is remembered. -/
theorem step_keyWord
    {lexer : Lexer} {key : List Char} (notEmpty : key ≠ [])
    (letters : ∀ character ∈ key, isSmallLetter character = true)
    (gap : atGap rest = true)
    (shorter : (key ++ ':' :: rest).length ≤ lexer.rest.length)
    (loose : isLoose candidate = true)
    (settles :
      lexer.settle =
        .ok
          (atMargin position tokens isOpen true candidate
            (key ++ ':' :: rest))) :
    ∃ isRequired,
      Step lexer
        (atMargin (position.after key) (.scalar (.chars key) true :: tokens)
          isOpen false (some ⟨tokens.length, isRequired, position⟩)
          (':' :: rest)) := by
  obtain ⟨isRequired, _, saves⟩ :=
    @saveCandidate_atMargin position tokens isOpen candidate
      (key ++ ':' :: rest) loose
  obtain ⟨letter, others, rfl⟩ : ∃ letter others, key = letter :: others :=
    List.exists_cons_of_ne_nil notEmpty
  have isLetter := letters letter (by simp)
  have noMark : atDocumentMark (letter :: (others ++ ':' :: rest)) = false :=
    atDocumentMark_of_ne (ne_of_isSmallLetter isLetter (by decide))
      (ne_of_isSmallLetter isLetter (by decide)) _
  let settled :=
    atMargin position tokens isOpen true candidate
      (letter :: others ++ ':' :: rest)
  have isPlain :
      settled.readToken letter (others ++ ':' :: rest) = settled.readPlain :=
    readToken_eq_readPlain rfl (isGap_of_isSmallLetter isLetter)
      (isLeadingIndicator_of_isSmallLetter isLetter _) fun _ => noMark
  refine ⟨isRequired, .read settles rfl ?_ rfl ?_⟩
  · show settled.readToken letter (others ++ ':' :: rest) = _
    rw [isPlain]
    exact
      readPlain_atMargin saves
        (scanPlain_of_isSmallLetter letters gap _ position)
  · rw [List.length_append] at shorter
    exact Nat.lt_of_lt_of_le (Nat.lt_add_of_pos_left (Nat.succ_pos _)) shorter

/-- A colon makes the place that is remembered at the margin a key. -/
theorem step_colon
    {place : Position} {isRequired : Bool} {token : Token}
    (isStart : place.column = 0)
    (isFresh :
      isStale position ⟨tokens.length, isRequired, place⟩ = false)
    (gap : atGap rest = true) :
    Step
      (atMargin position (token :: tokens) isOpen false
        (some ⟨tokens.length, isRequired, place⟩) (':' :: rest))
      (atMargin (position.step ':')
        (.value :: token :: .key :: beforeKey isOpen tokens) true false none
        rest) := by
  let kept : Candidate := ⟨tokens.length, isRequired, place⟩
  let lexer :=
    atMargin position (token :: tokens) isOpen false (some kept) (':' :: rest)
  have refreshed : refresh position (some kept) = .ok (some kept) := by
    simp [refresh, kept, isFresh]
  have isValue : lexer.readToken ':' rest = lexer.readValue := by
    simp [readToken, gap]
  refine
    .read (settle_atMargin (skipGapFrom_of_opensLine rfl false) refreshed) rfl
      ?_ rfl (Nat.lt_succ_self _)
  show lexer.readToken ':' rest = _
  rw [isValue]
  show Except.ok (((lexer.confirmKey kept).skip 1).push .value) = _
  rw [confirmKey_atMargin isStart]
  rfl

/-- A key at the margin is read with its colon. -/
theorem steps_key
    {lexer : Lexer} {key : List Char} (isKey : isKeyWord key = true)
    (gap : atGap rest = true)
    (atLine : AtLine lexer tokens isOpen (key ++ ':' :: rest)) :
    ∃ position,
      ReflTransGen Step lexer
        (atMargin position
          (.value :: .scalar (.chars key) true :: .key ::
            beforeKey isOpen tokens)
          true false none rest) := by
  simp only [isKeyWord, Bool.and_eq_true, decide_eq_true_eq, List.all_eq_true]
    at isKey
  rcases isKey with ⟨⟨notEmpty, isShort⟩, letters⟩
  rcases atLine with ⟨shorter, position, candidate, isStart, loose, settles⟩
  obtain ⟨isRequired, onWord⟩ :=
    step_keyWord (by simpa using notEmpty) letters gap shorter loose settles
  have isFresh :
      isStale (position.after key) ⟨tokens.length, isRequired, position⟩ =
        false := by
    rw [after_of_isSmallLetter letters]
    simp [isStale, Nat.not_lt.2 isShort]
  exact ⟨_, .head onWord (.single (step_colon isStart isFresh gap))⟩

end Lexer

end NativeDeps.Yaml
