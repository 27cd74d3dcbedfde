import Mathlib.Data.List.Basic
import NativeDeps.Nix.Literal

/-!
# Nix string literals read back

A text is escaped by three replacements, one after the other.  The first two each put a
backslash in front of one sign, and neither makes a sign that a later one would take:
together they work on every letter by itself.  The third one then looks for two
letters, of which the replacements before it neither made nor parted any.  So the
three are one pass over the text, which the reader undoes letter by letter.

The main statement is that the literal of a text is one complete literal: the reader
meets no interpolation in it and its closing quote only at the end, and yields the text.
-/

namespace NativeDeps.Nix

/-- The signs to which the first two replacements give a backslash. -/
def needsBackslash (letter : Letter) : Bool :=
  letter == .char '\\' || letter == .char '"'

/-- A letter after the first two replacements. -/
def backslashed (letter : Letter) : Spelling :=
  if needsBackslash letter then [.char '\\', letter] else [letter]

/-- The sign that opens an interpolation. -/
def interpolation : Spelling :=
  [.char '$', .char '\x7b']

/-- Whether a letter opens an interpolation in front of the rest of a text. -/
def Opens (letter : Letter) (rest : Spelling) : Prop :=
  letter = .char '$' ∧ rest.head? = some (.char '\x7b')

/-- A text is escaped in one pass, where a dollar sign matters in front of a brace. -/
def escapeAtOnce : Spelling → Spelling
  | [] => []
  | .char '$' :: .char '\x7b' :: rest =>
      .char '\\' :: .char '$' :: .char '\x7b' :: escapeAtOnce rest
  | letter :: rest => backslashed letter ++ escapeAtOnce rest

theorem replace_singleton (sign : Letter) (replacement text : Spelling) :
    Text.replace [sign] replacement text =
      text.flatMap fun letter =>
        if letter = sign then replacement else [letter] := by
  induction text with
  | nil => rfl
  | cons letter rest induction =>
      rw [Text.replace] at induction ⊢
      rw [Text.replaceFrom, List.flatMap_cons, List.length_singleton,
        Nat.sub_self, induction]
      by_cases isSign : letter = sign
      · simp [isSign]
      · simp [isSign, Ne.symm isSign]

theorem replace_backslash_quote (text : Spelling) :
    Text.replace [.char '"'] [.char '\\', .char '"']
        (Text.replace [.char '\\'] [.char '\\', .char '\\'] text) =
      text.flatMap backslashed := by
  rw [replace_singleton, replace_singleton, List.flatMap_assoc]
  congr 1
  funext letter
  by_cases isBackslash : letter = .char '\\'
  · simp [isBackslash, backslashed, needsBackslash]
  · by_cases isQuote : letter = .char '"' <;>
      simp [isBackslash, isQuote, backslashed, needsBackslash]

theorem head?_flatMap_backslashed {text : Spelling}
    (opens : (text.flatMap backslashed).head? = some (.char '\x7b')) :
    text.head? = some (.char '\x7b') := by
  cases text with
  | nil => simp at opens
  | cons letter rest =>
      by_cases needs : needsBackslash letter
      · simp [backslashed, needs] at opens
      · simpa [backslashed, needs] using opens

/-- What the third replacement makes of a text whose first letter it keeps. -/
theorem replaceFrom_cons_of_not_open
    {letter : Letter} {rest : Spelling} (notOpen : ¬ Opens letter rest) :
    Text.replaceFrom interpolation (.char '\\' :: interpolation) 0 (letter :: rest) =
      letter :: Text.replaceFrom interpolation (.char '\\' :: interpolation) 0 rest := by
  rw [Text.replaceFrom, if_neg]
  cases rest with
  | nil => simp [interpolation, List.isPrefixOf]
  | cons next rest =>
      intro opens
      simp only [interpolation, List.isPrefixOf, Bool.and_true, Bool.and_eq_true,
        beq_iff_eq] at opens
      exact notOpen ⟨opens.1.symm, by rw [opens.2]; rfl⟩

/-- The three replacements are one pass. -/
theorem escape_eq_escapeAtOnce (text : Spelling) :
    escape text = escapeAtOnce text := by
  have inTurn :
      escape text =
        Text.replaceFrom interpolation (.char '\\' :: interpolation) 0
          (text.flatMap backslashed) := by
    rw [← replace_backslash_quote]
    rfl
  rw [inTurn]
  clear inTurn
  fun_induction escapeAtOnce text with
  | case1 => rfl
  | case2 rest induction =>
      rw [← induction]
      rfl
  | case3 letter rest notOpen induction =>
      have staysApart : ¬ Opens letter (rest.flatMap backslashed) := by
        rintro ⟨isDollar, opens⟩
        have restOpens := head?_flatMap_backslashed opens
        cases rest with
        | nil => simp at restOpens
        | cons next rest =>
            have isBrace : next = .char '\x7b' := by simpa using restOpens
            exact notOpen rest isDollar (by rw [isBrace])
      rw [List.flatMap_cons, ← induction]
      by_cases needs : needsBackslash letter
      · have notDollar : letter ≠ .char '$' := by
          rintro rfl
          simp [needsBackslash] at needs
        rw [backslashed, if_pos needs]
        simp only [List.cons_append, List.nil_append]
        rw [replaceFrom_cons_of_not_open (by simp [Opens]),
          replaceFrom_cons_of_not_open (by simp [Opens, notDollar])]
      · rw [backslashed, if_neg needs]
        simp only [List.cons_append, List.nil_append]
        rw [replaceFrom_cons_of_not_open staysApart]

theorem readLiteral_backslashed
    {letter : Letter} (rest : Spelling) (notOpen : ¬ Opens letter rest) :
    readLiteral (backslashed letter ++ rest) = (readLiteral rest).cons letter := by
  by_cases isBackslash : letter = .char '\\'
  · subst letter
    rfl
  · by_cases isQuote : letter = .char '"'
    · subst letter
      rfl
    · have kept : backslashed letter = [letter] := by
        simp [backslashed, needsBackslash, isBackslash, isQuote]
      have notInterpolation :
          ∀ others,
            letter = .char '$' → rest = .char '\x7b' :: others → False := by
        intro others isDollar opens
        exact notOpen ⟨isDollar, by rw [opens]; rfl⟩
      rw [kept, List.cons_append, List.nil_append]
      exact
        readLiteral.eq_5 letter rest isQuote
          (fun _ _ same _ => isBackslash same) notInterpolation

theorem head?_escapeAtOnce {text : Spelling} (rest : Spelling)
    (opens :
      (escapeAtOnce text ++ .char '"' :: rest).head? = some (.char '\x7b')) :
    text.head? = some (.char '\x7b') := by
  fun_cases escapeAtOnce text with
  | case1 => simp [escapeAtOnce] at opens
  | case2 others => simp [escapeAtOnce] at opens
  | case3 letter others notOpen =>
      rw [escapeAtOnce.eq_3 _ _ notOpen] at opens
      by_cases needs : needsBackslash letter
      · simp [backslashed, needs] at opens
      · simpa [backslashed, needs] using opens

/-- Reading an escaped text up to the quote behind it yields the text. -/
theorem readLiteral_escape (text rest : Spelling) :
    readLiteral (escape text ++ .char '"' :: rest) = .closed text rest := by
  rw [escape_eq_escapeAtOnce]
  fun_induction escapeAtOnce text with
  | case1 => rfl
  | case2 others induction =>
      have braceKept :
          readLiteral
              (.char '\x7b' :: (escapeAtOnce others ++ .char '"' :: rest)) =
            (readLiteral (escapeAtOnce others ++ .char '"' :: rest)).cons
              (.char '\x7b') :=
        @readLiteral_backslashed (.char '\x7b') _ (by simp [Opens])
      simp only [List.cons_append]
      rw [readLiteral, braceKept, induction]
      rfl
  | case3 letter others notOpen induction =>
      have staysApart :
          ¬ Opens letter (escapeAtOnce others ++ .char '"' :: rest) := by
        rintro ⟨isDollar, opens⟩
        have othersOpen := head?_escapeAtOnce rest opens
        cases others with
        | nil => simp at othersOpen
        | cons next others =>
            have isBrace : next = .char '\x7b' := by simpa using othersOpen
            exact notOpen others isDollar (by rw [isBrace])
      rw [List.append_assoc, readLiteral_backslashed _ staysApart, induction]
      rfl

/--
The literal of a text is a quote and a body that reads back as the text.  The reader
meets no interpolation, and the quote that closes the literal is its last character.
-/
theorem literal_reads_back (text : Spelling) :
    ∃ body : Spelling,
      literal text = .char '"' :: body ∧
        readLiteral body = .closed text [] :=
  ⟨escape text ++ [.char '"'], rfl, readLiteral_escape text []⟩

end NativeDeps.Nix
