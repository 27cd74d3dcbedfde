import Mathlib.Tactic.SplitIfs
import NativeDeps.Proofs.Yaml.DoubleQuoted
import NativeDeps.Proofs.Yaml.PlainScalar
import NativeDeps.Proofs.Yaml.SingleQuoted
import NativeDeps.Yaml.Document

/-!
# Written texts hold no special characters

A character that needs an escape is written as one, so what is written is line feeds
and printable characters of ASCII alone.  A source of these is taken as it is: nothing
in it is malformed, and no line end is spelt in another way.
-/

namespace NativeDeps.Yaml

/-- Whether no character of a text needs an escape. -/
def IsOrdinary (characters : List Char) : Prop :=
  ∀ character ∈ characters, isSpecial character = false

instance (characters : List Char) : Decidable (IsOrdinary characters) :=
  decidable_of_iff (characters.all (!isSpecial ·) = true)
    (by simp [IsOrdinary])

namespace IsOrdinary

variable {character : Char} {characters others : List Char}

@[simp]
theorem nil : IsOrdinary [] := fun _ member =>
  absurd member List.not_mem_nil

@[simp]
theorem cons_iff :
    IsOrdinary (character :: characters) ↔
      isSpecial character = false ∧ IsOrdinary characters :=
  List.forall_mem_cons

@[simp]
theorem append_iff :
    IsOrdinary (characters ++ others) ↔
      IsOrdinary characters ∧ IsOrdinary others :=
  List.forall_mem_append

theorem replicate (ordinary : isSpecial character = false) (count : Nat) :
    IsOrdinary (List.replicate count character) := by
  intro other member
  rw [List.eq_of_mem_replicate member]
  exact ordinary

theorem newLine : IsOrdinary newLine := by decide

end IsOrdinary

theorem isSpecial_space : isSpecial ' ' = false := by decide

theorem isSpecial_lineFeed : isSpecial '\n' = false := by decide

/-! ## Escapes -/

theorem isSpecial_of_digitValue?
    {digit : Char} {value : Nat}
    (isDigit : Text.digitValue? digit = some value) :
    isSpecial digit = false := by
  have printable : 32 ≤ digit.toNat ∧ digit.toNat ≤ 126 := by
    simp only [Text.digitValue?, Bool.and_eq_true, decide_eq_true_eq]
      at isDigit
    split_ifs at isDigit with decimal small capital
    · have least : 48 ≤ digit.toNat := decimal.1
      have most : digit.toNat ≤ 57 := decimal.2
      omega
    · have least : 97 ≤ digit.toNat := small.1
      have most : digit.toNat ≤ 102 := small.2
      omega
    · have least : 65 ≤ digit.toNat := capital.1
      have most : digit.toNat ≤ 70 := capital.2
      omega
  simp [isSpecial, printable]

theorem isOrdinary_of_hexValue?
    {digits : List Char} {value : Nat}
    (isNumber : hexValue? digits = some value) :
    IsOrdinary digits := by
  suffices
      ∀ before,
        digits.foldlM
            (fun value digit =>
              (Text.digitValue? digit).map (value * 16 + ·)) before =
          some value →
        IsOrdinary digits by
    exact this 0 isNumber
  clear isNumber
  induction digits with
  | nil => exact fun _ _ => .nil
  | cons digit others induction =>
      intro before isNumber
      rw [List.foldlM_cons] at isNumber
      rcases Option.bind_eq_some_iff.1 isNumber with ⟨next, isNext, isRest⟩
      rcases Option.map_eq_some_iff.1 isNext with ⟨digitValue, isDigit, _⟩
      exact
        IsOrdinary.cons_iff.2
          ⟨isSpecial_of_digitValue? isDigit, induction next isRest⟩

theorem isOrdinary_escapedCode (code : Nat) :
    IsOrdinary (escapedCode code) := by
  have digits (width : Nat) : IsOrdinary (Text.capitalHex width code) :=
    isOrdinary_of_hexValue? (hexValue?_capitalHex width code)
  have marks : IsOrdinary ['\\', 'x', 'u', 'U'] := by decide
  simp only [IsOrdinary.cons_iff] at marks
  rw [escapedCode]
  split_ifs <;> simp [marks, digits]

/-- No escape holds a character that needs one. -/
theorem isOrdinary_escaped (letter : Letter) : IsOrdinary (escaped letter) := by
  cases letter with
  | half place => exact isOrdinary_escapedCode _
  | char character =>
      have backslash : isSpecial '\\' = false := by decide
      rw [escaped]
      split
      · rename_i sign written
        have everySign :
            ∀ pair ∈ writtenEscapes, isSpecial pair.2 = false := by
          decide
        rcases List.lookup_eq_some_iff.1 written with ⟨before, after, table, _⟩
        have ordinary := everySign (character, sign) (by simp [table])
        simp [backslash, ordinary]
      · exact isOrdinary_escapedCode _

theorem isOrdinary_unescaped
    {letter : Letter} (plain : needsEscape letter = false) :
    IsOrdinary (unescaped letter) := by
  cases letter with
  | half place => cases plain
  | char character =>
      exact IsOrdinary.cons_iff.2 ⟨isSpecial_of_not_needsEscape plain, .nil⟩

/-! ## Writers -/

theorem isOrdinary_writePlain
    {characters : List Char} (ordinary : IsOrdinary characters)
    (spaces column : Nat) :
    IsOrdinary (writePlain spaces column characters) := by
  induction characters generalizing spaces column with
  | nil => exact .replicate isSpecial_space spaces
  | cons character others induction =>
      rw [IsOrdinary.cons_iff] at ordinary
      rw [writePlain]
      split
      · exact induction ordinary.2 (spaces + 1) column
      · split
        · simp [IsOrdinary.newLine, ordinary.1, induction ordinary.2]
        · simp [IsOrdinary.replicate isSpecial_space, ordinary.1,
            induction ordinary.2]

theorem Held.isOrdinary_write (held : Held) (column : Nat) (isFirst : Bool) :
    IsOrdinary (held.write column isFirst).1 := by
  cases held with
  | spaces count =>
      rw [write]
      split
      · exact .newLine
      · exact .replicate isSpecial_space count
  | breaks count =>
      exact
        IsOrdinary.append_iff.2
          ⟨.replicate isSpecial_lineFeed count, .newLine⟩

theorem isOrdinary_writeSingle
    {characters : List Char} (ordinary : IsOrdinary characters)
    (isFirst : Bool) (held : Held) (column : Nat) :
    IsOrdinary (writeSingle isFirst held column characters) := by
  have quote : isSpecial '\'' = false := by decide
  induction characters generalizing isFirst held column with
  | nil =>
      rw [writeSingle, held.writeLast_eq_write column]
      simp [held.isOrdinary_write, quote]
  | cons character others induction =>
      rw [IsOrdinary.cons_iff] at ordinary
      have others := induction ordinary.2
      have before := held.isOrdinary_write column isFirst
      rw [writeSingle.eq_def]
      simp only []
      split
      · exact others _ _ _
      · exact others _ _ _
      · exact others _ _ _
      · split_ifs <;> simp [before, others, quote, ordinary.1]

theorem isOrdinary_foldBefore (following : Spelling) :
    IsOrdinary (foldBefore following).1 := by
  have backslash : isSpecial '\\' = false := by decide
  rw [foldBefore]
  split <;> simp [backslash, IsOrdinary.newLine]

/-- What is written between double quotes needs no escape, whatever the text. -/
theorem isOrdinary_writeDouble
    (text : Spelling) (isFirst afterEscape : Bool) (column : Nat) :
    IsOrdinary (writeDouble isFirst afterEscape column text) := by
  have quote : isSpecial '"' = false := by decide
  induction text generalizing isFirst afterEscape column with
  | nil => simp [writeDouble, quote]
  | cons letter others induction =>
      rw [writeDouble]
      split
      · simp only []
        split
        · simp [isOrdinary_escaped, isOrdinary_foldBefore, induction]
        · simp [isOrdinary_escaped, induction]
      · rename_i plain
        rw [Bool.not_eq_true] at plain
        have ordinary := isOrdinary_unescaped plain
        split
        · simp [isOrdinary_foldBefore, ordinary, induction]
        · simp [ordinary, induction]

theorem isOrdinary_writeText (column : Nat) (text : Spelling) :
    IsOrdinary (writeText column text) := by
  have quotes : isSpecial '\'' = false ∧ isSpecial '"' = false := by decide
  rw [writeText]
  split
  · rename_i characters whole
    split
    · rename_i plain
      have ordinary : IsOrdinary characters := by
        rcases (allowsPlain_iff characters).1 plain with ⟨_, fits⟩
        simp only [fitsPlain, Bool.and_eq_true, Bool.not_eq_true',
          List.any_eq_false, Bool.not_eq_true] at fits
        exact fits.1.2
      simp [isSpecial_space, isOrdinary_writePlain ordinary]
    · split
      · rename_i single
        have ordinary : IsOrdinary characters := by
          simp only [allowsSingle, Bool.and_eq_true, Bool.not_eq_true',
            List.any_eq_false, Bool.not_eq_true] at single
          exact single.1
        simp [isSpecial_space, quotes, isOrdinary_writeSingle ordinary]
      · simp [isSpecial_space, quotes, isOrdinary_writeDouble]
  · simp [isSpecial_space, quotes, isOrdinary_writeDouble]

theorem isOrdinary_writeField
    {key : String} (ordinary : IsOrdinary key.toList)
    (value : Option Spelling) :
    IsOrdinary (writeField key value) := by
  have letters : IsOrdinary [':', ' ', 'n', 'u', 'l'] := by decide
  simp only [IsOrdinary.cons_iff] at letters
  cases value with
  | none => simp [writeField, ordinary, letters, isSpecial_lineFeed]
  | some text =>
      simp [writeField, ordinary, letters, isOrdinary_writeText,
        isSpecial_lineFeed]

theorem isOrdinary_writeItems
    {key : String} (ordinary : IsOrdinary key.toList)
    (texts : List Spelling) :
    IsOrdinary (writeItems key texts) := by
  have marks : IsOrdinary [':', '-', ' ', '[', ']'] := by decide
  simp only [IsOrdinary.cons_iff] at marks
  have items : IsOrdinary (texts.flatMap writeItem) := by
    induction texts with
    | nil => exact .nil
    | cons text others induction =>
        simp [writeItem, marks, isOrdinary_writeText, isSpecial_lineFeed,
          induction]
  rw [writeItems]
  split <;> simp [ordinary, marks, items, isSpecial_lineFeed]

/-! ## Sources -/

theorem unifyNewlines_of_isOrdinary
    {characters : List Char} (ordinary : IsOrdinary characters) :
    Yaml.unifyNewlines characters = characters := by
  induction characters with
  | nil => rfl
  | cons character others induction =>
      rw [IsOrdinary.cons_iff] at ordinary
      have notReturn : character ≠ '\r' := by
        rintro rfl
        exact absurd ordinary.1 (by decide)
      rw [Yaml.unifyNewlines.eq_4 _ _ (by simp [notReturn])
        (by simp [notReturn]), induction ordinary.2]

/-- A text without special characters is a source as it is. -/
theorem Source.ofText_of_isOrdinary
    {characters : List Char} (ordinary : IsOrdinary characters) :
    Source.ofText (String.ofList characters) = ⟨characters, none⟩ := by
  have allowed :
      characters.findIdx? (fun character => !isAllowed character) = none := by
    rw [List.findIdx?_eq_none_iff]
    intro character member
    rw [isAllowed_of_not_isSpecial (ordinary character member)]
    rfl
  have unified : characters.map unifyBreak = characters := by
    refine List.map_congr_left (fun character member => ?_) |>.trans
      (List.map_id characters)
    have notBreak : character ≠ '\x85' := by
      rintro rfl
      exact absurd (ordinary _ member) (by decide)
    rw [unifyBreak, if_neg notBreak, id]
  rw [ofText, String.toList_ofList, unifyNewlines_of_isOrdinary ordinary,
    checked]
  simp only [allowed, Source.unified, unified]

end NativeDeps.Yaml
