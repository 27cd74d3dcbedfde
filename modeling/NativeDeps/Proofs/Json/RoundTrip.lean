import Mathlib.Tactic.SplitIfs
import NativeDeps.Json.AsciiText
import NativeDeps.Json.Reader
import NativeDeps.Proofs.Text.Spelling
import NativeDeps.Proofs.Value

/-!
# Texts in JSON and back

What is written for a text reads back as this text, and what is written for some texts as
their list.  Each letter comes to the units that are read for it: itself, or the two halves
of a surrogate pair, which are joined again when the whole string has been read.  So two
halves in a row that were letters of their own come back as one character, and every other
text comes back as it was.  All that is written are printable characters of ASCII.
-/

namespace NativeDeps.Json

open Text

theorem smallHex_succ {width : Nat} (positive : 0 < width) (number : Nat) :
    smallHex (width + 1) number =
      smallHex width (number / 16) ++ [Nat.digitChar (number % 16)] := by
  rw [smallHex, smallHex, padLeft, padLeft, List.append_assoc]
  by_cases isDigit : number < 16
  · rw [Nat.toDigits_of_lt_base isDigit, Nat.div_eq_of_lt isDigit,
      Nat.mod_eq_of_lt isDigit, Nat.toDigits_of_lt_base (by decide)]
    rcases Nat.exists_eq_succ_of_ne_zero (Nat.ne_of_gt positive) with
      ⟨shorter, rfl⟩
    simp [List.replicate_succ']
  · rw [Nat.toDigits_eq_if (by decide), if_neg isDigit, List.length_append,
      List.length_singleton, Nat.add_sub_add_right]

/-- A unit of sixteen bits is written with four digits. -/
theorem smallHex_four {unit : Nat} (fits : unit < 0x10000) :
    smallHex 4 unit =
      [Nat.digitChar (unit / 4096), Nat.digitChar (unit / 256 % 16),
        Nat.digitChar (unit / 16 % 16), Nat.digitChar (unit % 16)] := by
  have isDigit : unit / 16 / 16 / 16 < 16 := by omega
  have one : smallHex 1 (unit / 16 / 16 / 16) =
      [Nat.digitChar (unit / 16 / 16 / 16)] := by
    rw [smallHex, Nat.toDigits_of_lt_base isDigit]
    rfl
  rw [smallHex_succ (by decide), smallHex_succ (by decide),
    smallHex_succ (by decide), one]
  simp [Nat.div_div_eq_div_mul]

theorem digitValue?_digitChar :
    ∀ digit < 16, digitValue? (Nat.digitChar digit) = some digit := by
  decide

/-- The digits of a unit are read back. -/
theorem unit?_digits
    {a b c d : Nat} (aFits : a < 16) (bFits : b < 16) (cFits : c < 16)
    (dFits : d < 16) :
    unit? (Nat.digitChar a) (Nat.digitChar b) (Nat.digitChar c)
        (Nat.digitChar d) =
      some (((a * 16 + b) * 16 + c) * 16 + d) := by
  rw [unit?, digitValue?_digitChar a aFits, digitValue?_digitChar b bFits,
    digitValue?_digitChar c cFits, digitValue?_digitChar d dFits]
  rfl

theorem readCodes_unitEscape
    {unit : Nat} (fits : unit < 0x10000) (before : List Nat)
    (rest : List Char) :
    readCodes before (unitEscape unit ++ rest) =
      readCodes (unit :: before) rest := by
  have same :
      ((unit / 4096 * 16 + unit / 256 % 16) * 16 + unit / 16 % 16) * 16 +
          unit % 16 =
        unit := by
    omega
  have isRead :=
    unit?_digits (by omega : unit / 4096 < 16)
      (Nat.mod_lt (unit / 256) (by decide : 0 < 16))
      (Nat.mod_lt (unit / 16) (by decide : 0 < 16))
      (Nat.mod_lt unit (by decide : 0 < 16))
  rw [same] at isRead
  rw [unitEscape, smallHex_four fits]
  simp only [List.cons_append, List.nil_append]
  rw [readCodes, isRead]

/-- The units that are read for a letter: itself, or the halves of its pair. -/
def units (letter : Letter) : List Nat :=
  let code := letter.code
  if code < 0x10000 then
    [code]
  else
    [0xD800 + (code - 0x10000) / 0x400, 0xDC00 + (code - 0x10000) % 0x400]

theorem units_of_lt {letter : Letter} (isBasic : letter.code < 0x10000) :
    units letter = [letter.code] :=
  if_pos isBasic

/-- A character that is neither a quote nor a backslash nor a control is read as itself. -/
theorem readCodes_cons
    {character : Char} (notQuote : character ≠ '"')
    (notBackslash : character ≠ '\\') (notControl : 32 ≤ character.toNat)
    (before : List Nat) (rest : List Char) :
    readCodes before (character :: rest) =
      readCodes (character.toNat :: before) rest := by
  rw [readCodes.eq_5 before character rest notQuote
    (fun _ _ _ _ _ isBackslash => absurd isBackslash notBackslash)
    (fun _ _ isBackslash => absurd isBackslash notBackslash),
    if_neg (Nat.not_lt.2 notControl)]

/-- An escape of one sign is read as the character it stands for. -/
theorem readCodes_shortEscape
    {sign character : Char} (isShort : shortEscape? sign = some character)
    (before : List Nat) (rest : List Char) :
    readCodes before ('\\' :: sign :: rest) =
      readCodes (character.toNat :: before) rest := by
  have notUnit : sign ≠ 'u' := by
    rintro rfl
    cases isShort
  rw [readCodes.eq_4 before sign rest
    (fun _ _ _ _ _ isUnit => absurd isUnit notUnit), isShort]

/-- A character is printable in ASCII. -/
def IsPlain (character : Char) : Prop :=
  32 ≤ character.toNat ∧ character.toNat ≤ 126

instance (character : Char) : Decidable (IsPlain character) :=
  inferInstanceAs (Decidable (_ ∧ _))

/-- The ways to write a letter in a string. -/
inductive Written : Letter → List Char → Prop
  | itself {character : Char} (notQuote : character ≠ '"')
      (notBackslash : character ≠ '\\') (isPlain : IsPlain character) :
      Written (.char character) [character]
  | sign {character sign : Char} (isPlain : IsPlain sign)
      (isShort : shortEscape? sign = some character) :
      Written (.char character) ['\\', sign]
  | unit {letter : Letter} (isBasic : letter.code < 0x10000) :
      Written letter (unitEscape letter.code)
  | pair {letter : Letter} (isBeyond : 0x10000 ≤ letter.code) :
      Written letter
        (unitEscape (0xD800 + (letter.code - 0x10000) / 0x400) ++
          unitEscape (0xDC00 + (letter.code - 0x10000) % 0x400))

theorem written_escapeChar (character : Char) :
    Written (.char character) (escapeChar character) := by
  rw [escapeChar]
  split_ifs with isMarked isPlain isLine isReturn isTab isBack isFeed isBasic
  · rw [Bool.or_eq_true, beq_iff_eq, beq_iff_eq] at isMarked
    rcases isMarked with rfl | rfl
    · exact .sign (by decide) rfl
    · exact .sign (by decide) rfl
  · rw [Bool.or_eq_true, beq_iff_eq, beq_iff_eq, not_or] at isMarked
    rw [Bool.and_eq_true, decide_eq_true_eq, decide_eq_true_eq] at isPlain
    exact .itself isMarked.1 isMarked.2 isPlain
  · rw [beq_iff_eq.1 isLine]
    exact .sign (by decide) rfl
  · rw [beq_iff_eq.1 isReturn]
    exact .sign (by decide) rfl
  · rw [beq_iff_eq.1 isTab]
    exact .sign (by decide) rfl
  · have isBackspace : character = '\x08' :=
      Char.toNat_inj.1 (beq_iff_eq.1 isBack)
    rw [isBackspace]
    exact .sign (by decide) rfl
  · have isFormFeed : character = '\x0c' :=
      Char.toNat_inj.1 (beq_iff_eq.1 isFeed)
    rw [isFormFeed]
    exact .sign (by decide) rfl
  · exact @Written.unit (.char character) isBasic
  · exact @Written.pair (.char character) (Nat.not_lt.1 isBasic)

theorem written_escapeLetter (letter : Letter) :
    Written letter (escapeLetter letter) := by
  cases letter with
  | char character => exact written_escapeChar character
  | half place =>
      apply Written.unit
      rw [Letter.code]
      omega

theorem toNat_lt_of_shortEscape?
    {sign character : Char} (isShort : shortEscape? sign = some character) :
    character.toNat < 0x10000 := by
  unfold shortEscape? at isShort
  split at isShort <;> cases isShort <;> decide

/-- What is written for a letter is read as its units. -/
theorem readCodes_escapeLetter
    (letter : Letter) (before : List Nat) (rest : List Char) :
    readCodes before (escapeLetter letter ++ rest) =
      readCodes ((units letter).reverse ++ before) rest := by
  have isWritten := written_escapeLetter letter
  generalize escapeLetter letter = written at isWritten ⊢
  cases isWritten with
  | itself notQuote notBackslash isPlain =>
      rw [units_of_lt (Nat.lt_of_le_of_lt isPlain.2 (by decide))]
      exact readCodes_cons notQuote notBackslash isPlain.1 before rest
  | @sign character sign isPlain isShort =>
      have isBasic : (Letter.char character).code < 0x10000 :=
        toNat_lt_of_shortEscape? isShort
      rw [units_of_lt isBasic]
      exact readCodes_shortEscape isShort before rest
  | unit isBasic =>
      rw [units_of_lt isBasic]
      exact readCodes_unitEscape isBasic before rest
  | pair isBeyond =>
      have isCode := letter.code_lt_codePoints
      rw [List.append_assoc, readCodes_unitEscape (by omega),
        readCodes_unitEscape (by omega), units,
        if_neg (Nat.not_lt.2 isBeyond)]
      rfl

theorem isPlain_digitChar :
    ∀ digit < 16, IsPlain (Nat.digitChar digit) := by
  decide

theorem isPlain_of_mem_unitEscape
    {unit : Nat} (fits : unit < 0x10000) {character : Char}
    (member : character ∈ unitEscape unit) : IsPlain character := by
  rw [unitEscape, smallHex_four fits] at member
  simp only [List.mem_cons, List.not_mem_nil, or_false] at member
  rcases member with rfl | rfl | rfl | rfl | rfl | rfl
  · decide
  · decide
  all_goals exact isPlain_digitChar _ (by omega)

/-- All that is written for a letter is printable. -/
theorem isPlain_of_mem_escapeLetter
    {letter : Letter} {other : Char} (member : other ∈ escapeLetter letter) :
    IsPlain other := by
  have isWritten := written_escapeLetter letter
  generalize escapeLetter letter = written at isWritten member
  cases isWritten with
  | itself notQuote notBackslash isPlain =>
      rwa [List.mem_singleton.1 member]
  | sign isPlain isShort =>
      rcases List.mem_cons.1 member with rfl | member
      · decide
      · rwa [List.mem_singleton.1 member]
  | unit isBasic => exact isPlain_of_mem_unitEscape isBasic member
  | pair isBeyond =>
      have isCode := letter.code_lt_codePoints
      rcases List.mem_append.1 member with isFirst | isSecond
      · exact isPlain_of_mem_unitEscape (by omega) isFirst
      · exact isPlain_of_mem_unitEscape (by omega) isSecond

theorem isPlain_of_mem_textChars
    {text : Spelling} {character : Char}
    (member : character ∈ textChars text) : IsPlain character := by
  rw [textChars, List.mem_append, List.mem_cons, List.mem_singleton,
    List.mem_flatMap] at member
  rcases member with (rfl | ⟨own, _, escaped⟩) | rfl
  · decide
  · exact isPlain_of_mem_escapeLetter escaped
  · decide

theorem isPlain_of_mem_restOfArray
    {texts : List Spelling} {character : Char}
    (member : character ∈ restOfArray texts) : IsPlain character := by
  induction texts with
  | nil =>
      rw [restOfArray, List.mem_singleton] at member
      rw [member]
      decide
  | cons text rest induction =>
      rw [restOfArray, List.mem_append, List.mem_cons, List.mem_cons] at member
      rcases member with (rfl | rfl | isText) | isRest
      · decide
      · decide
      · exact isPlain_of_mem_textChars isText
      · exact induction isRest

/-- Texts are written as one line of printable characters. -/
theorem isPlain_of_mem_array
    {texts : List Spelling} {character : Char}
    (member : character ∈ (array texts).toList) : IsPlain character := by
  rw [array, String.toList_ofList] at member
  cases texts with
  | nil =>
      rw [arrayChars, List.mem_cons, List.mem_singleton] at member
      rcases member with rfl | rfl
      · decide
      · decide
  | cons text rest =>
      rw [arrayChars, List.mem_append, List.mem_cons] at member
      rcases member with (rfl | isText) | isRest
      · decide
      · exact isPlain_of_mem_textChars isText
      · exact isPlain_of_mem_restOfArray isRest

theorem readCodes_flatMap_escapeLetter
    (letters : Spelling) (before : List Nat) (rest : List Char) :
    readCodes before (letters.flatMap escapeLetter ++ '"' :: rest) =
      some (before.reverse ++ letters.flatMap units, rest) := by
  induction letters generalizing before with
  | nil => rw [List.flatMap_nil, List.flatMap_nil, List.append_nil]; rfl
  | cons letter others induction =>
      rw [List.flatMap_cons, List.append_assoc, readCodes_escapeLetter,
        induction, List.reverse_append, List.reverse_reverse,
        List.append_assoc, ← List.flatMap_cons]

/-- Behind a code point that is no second half nothing is joined across its front. -/
theorem joinPairs_cons_of_not_isSecondHalf
    {next : Nat} (noHalf : isSecondHalf next = false) (code : Nat)
    (codes : List Nat) :
    joinPairs (code :: next :: codes) = code :: joinPairs (next :: codes) := by
  rw [joinPairs, noHalf, Bool.and_false, if_neg Bool.false_ne_true]

/-- The two units of a letter beyond the basic plane are joined, whatever stands around them. -/
theorem joinPairs_cons_units_append
    {letter : Letter} (isBeyond : 0x10000 ≤ letter.code) (code : Nat)
    (codes : List Nat) :
    joinPairs (code :: (units letter ++ codes)) =
      code :: letter.code :: joinPairs codes := by
  have isCode := letter.code_lt_codePoints
  have notSecond :
      isSecondHalf (0xD800 + (letter.code - 0x10000) / 0x400) = false := by
    rw [isSecondHalf, Bool.and_eq_false_iff, decide_eq_false_iff_not]
    omega
  have isFirst :
      isFirstHalf (0xD800 + (letter.code - 0x10000) / 0x400) = true := by
    rw [isFirstHalf, Bool.and_eq_true, decide_eq_true_eq, decide_eq_true_eq]
    omega
  have isSecond :
      isSecondHalf (0xDC00 + (letter.code - 0x10000) % 0x400) = true := by
    rw [isSecondHalf, Bool.and_eq_true, decide_eq_true_eq, decide_eq_true_eq]
    omega
  have joined :
      joinHalves (0xD800 + (letter.code - 0x10000) / 0x400)
          (0xDC00 + (letter.code - 0x10000) % 0x400) =
        letter.code := by
    unfold joinHalves
    omega
  rw [units, if_neg (Nat.not_lt.2 isBeyond), List.cons_append,
    List.singleton_append, joinPairs_cons_of_not_isSecondHalf notSecond,
    joinPairs, isFirst, isSecond, Bool.and_self, if_pos rfl, joined]

/-- The same of the letter itself, which is no half. -/
theorem joinPairs_cons_code_cons
    {letter : Letter} (isBeyond : 0x10000 ≤ letter.code) (code : Nat)
    (codes : List Nat) :
    joinPairs (code :: letter.code :: codes) =
      code :: letter.code :: joinPairs codes := by
  have notSecond : isSecondHalf letter.code = false := by
    rw [isSecondHalf, Bool.and_eq_false_iff, decide_eq_false_iff_not,
      decide_eq_false_iff_not]
    omega
  have notFirst : isFirstHalf letter.code = false := by
    rw [isFirstHalf, Bool.and_eq_false_iff, decide_eq_false_iff_not,
      decide_eq_false_iff_not]
    omega
  rw [joinPairs_cons_of_not_isSecondHalf notSecond,
    joinPairs_cons_of_not_isFirstHalf notFirst]

theorem joinPairs_zero_cons (codes : List Nat) :
    joinPairs (0 :: codes) = 0 :: joinPairs codes :=
  joinPairs_cons_of_not_isFirstHalf rfl codes

/-- Behind a code point the units of letters are joined like the letters themselves. -/
theorem joinPairs_cons_flatMap_units (code : Nat) (letters : Spelling) :
    joinPairs (code :: letters.flatMap units) =
      joinPairs (code :: letters.codes) := by
  induction letters generalizing code with
  | nil => rfl
  | cons letter rest induction =>
      have byItself :
          joinPairs (rest.flatMap units) = joinPairs (Spelling.codes rest) := by
        have behindZero := induction 0
        rw [joinPairs_zero_cons, joinPairs_zero_cons] at behindZero
        exact List.tail_eq_of_cons_eq behindZero
      rw [List.flatMap_cons, Spelling.codes_cons]
      by_cases isBasic : letter.code < 0x10000
      · rw [units_of_lt isBasic, List.singleton_append]
        simp only [joinPairs, byItself, induction]
      · have isBeyond := Nat.not_lt.1 isBasic
        rw [joinPairs_cons_units_append isBeyond,
          joinPairs_cons_code_cons isBeyond, byItself]

theorem joinPairs_flatMap_units (letters : Spelling) :
    joinPairs (letters.flatMap units) = joinPairs letters.codes := by
  have behindZero := joinPairs_cons_flatMap_units 0 letters
  rw [joinPairs_zero_cons, joinPairs_zero_cons] at behindZero
  exact List.tail_eq_of_cons_eq behindZero

/-- What is read for a text: itself, with every two halves in a row joined. -/
def readBack (text : Spelling) : Value :=
  .ofSpelling text.joined

@[simp]
theorem readBack_ofText (text : String) : readBack text = .text text := by
  rw [readBack, Spelling.joined_ofText, Value.ofSpelling_ofText]

/-- A text in quotes is read back, whatever stands behind it. -/
theorem readString_escaped (text : Spelling) (rest : List Char) :
    readString (text.flatMap escapeLetter ++ '"' :: rest) =
      some (readBack text, rest) := by
  rw [readString, readCodes_flatMap_escapeLetter, List.reverse_nil,
    List.nil_append, Option.map_some]
  dsimp only
  rw [joinPairs_flatMap_units]
  rfl

theorem readValue_textChars
    {characters rest : List Char} {text : Spelling}
    (starts : dropBlanks characters = textChars text ++ rest) (fuel : Nat) :
    readValue (fuel + 1) characters = some (readBack text, rest) := by
  rw [textChars, List.append_assoc, List.singleton_append,
    List.cons_append] at starts
  rw [readValue, starts]
  exact readString_escaped text rest

/-- Texts up to the closing bracket are read; each of them takes one step of the fuel. -/
theorem readItems_textChars
    {characters rest : List Char} {text : Spelling} {texts : List Spelling}
    {fuel : Nat} (enough : texts.length + 2 ≤ fuel)
    (starts :
      dropBlanks characters = textChars text ++ (restOfArray texts ++ rest)) :
    readItems fuel characters =
      some ((text :: texts).map readBack, rest) := by
  induction texts generalizing characters text fuel with
  | nil =>
      rcases Nat.exists_eq_add_of_le' enough with ⟨spare, rfl⟩
      have isRead := readValue_textChars starts spare
      rw [List.length_nil, Nat.zero_add, readItems, isRead]
      rfl
  | cons next others induction =>
      rcases Nat.exists_eq_add_of_le' enough with ⟨spare, rfl⟩
      have isRead :=
        readValue_textChars starts (spare + others.length + 1)
      have further :
          readItems (spare + others.length + 2)
              (' ' :: (textChars next ++ (restOfArray others ++ rest))) =
            some ((next :: others).map readBack, rest) :=
        induction (by omega) rfl
      have sameFuel :
          spare + ((next :: others).length + 2) =
            spare + others.length + 2 + 1 := by
        rw [List.length_cons]
        omega
      rw [sameFuel, readItems, isRead, restOfArray]
      simp only [List.cons_append, List.append_assoc]
      show (readItems _ _).map _ = _
      rw [further]
      rfl

theorem length_lt_length_restOfArray (texts : List Spelling) :
    texts.length < (restOfArray texts).length := by
  induction texts with
  | nil => exact Nat.one_pos
  | cons text rest induction =>
      simp only [restOfArray, List.length_append, List.length_cons]
      omega

/-- What is written for some texts reads back as the list of them. -/
theorem read_array (texts : List Spelling) :
    read (array texts) = some (.list (texts.map readBack)) := by
  rw [read, array, String.toList_ofList]
  cases texts with
  | nil => rfl
  | cons text rest =>
      have isLonger := length_lt_length_restOfArray rest
      have items :
          readItems (arrayChars (text :: rest)).length
              (textChars text ++ restOfArray rest) =
            some ((text :: rest).map readBack, []) := by
        apply readItems_textChars
        · simp only [arrayChars, textChars, List.length_append,
            List.length_cons]
          omega
        · rw [List.append_nil]
          rfl
      have isRead :
          readValue ((arrayChars (text :: rest)).length + 1)
              (arrayChars (text :: rest)) =
            some (.list ((text :: rest).map readBack), []) := by
        rw [readValue]
        show
          (readItems _ (textChars text ++ restOfArray rest)).map _ = _
        rw [items]
        rfl
      rw [isRead]
      rfl

/-- Two halves that were letters of their own come back as the character that they spell. -/
example : readBack [.half 0x3D, .half 0x600] = .text "😀" :=
  rfl

end NativeDeps.Json
