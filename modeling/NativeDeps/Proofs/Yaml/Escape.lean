import Mathlib.Algebra.Group.Nat.Defs
import NativeDeps.Proofs.Text.Spelling
import NativeDeps.Yaml.Token.Quoted
import NativeDeps.Yaml.Written

/-!
# Written escapes

Every letter can be written as an escape: by one sign where it has one, else by its
code point in as many hexadecimal digits as its escape calls for.  The digits read back
as the number they were made of, and every sign names the character it was written for.
-/

namespace NativeDeps.Yaml

theorem digitValue?_toUpper_digitChar :
    ∀ digit < 16,
      Text.digitValue? (Nat.digitChar digit).toUpper = some digit := by
  decide

theorem hexValue?_append_digit
    {digits : List Char} {digit : Char} {value last : Nat}
    (before : hexValue? digits = some value)
    (isDigit : Text.digitValue? digit = some last) :
    hexValue? (digits ++ [digit]) = some (value * 16 + last) := by
  rw [hexValue?] at before ⊢
  rw [List.foldlM_append, before]
  simp [isDigit]

/-- The capital digits of a number read back as the number. -/
theorem hexValue?_toDigits (number : Nat) :
    hexValue? ((Nat.toDigits 16 number).map Char.toUpper) = some number := by
  induction number using Nat.strongRecOn with
  | ind number induction =>
      have small :=
        digitValue?_toUpper_digitChar (number % 16) (Nat.mod_lt _ (by decide))
      rw [Nat.toDigits_eq_if (by decide)]
      split
      · rename_i below
        rw [Nat.mod_eq_of_lt below] at small
        simp [hexValue?, small]
      · rename_i notBelow
        have shorter : number / 16 < number := by omega
        rw [List.map_append, List.map_singleton,
          hexValue?_append_digit (induction _ shorter) small]
        congr 1
        omega

theorem hexValue?_replicate_zero_append (count : Nat) (digits : List Char) :
    hexValue? (List.replicate count '0' ++ digits) = hexValue? digits := by
  have zero : Text.digitValue? '0' = some 0 := by decide
  induction count with
  | zero => rfl
  | succ count induction =>
      rw [List.replicate_succ, List.cons_append]
      rw [hexValue?] at induction ⊢
      simpa [zero] using induction

theorem hexValue?_capitalHex (width number : Nat) :
    hexValue? (Text.capitalHex width number) = some number := by
  rw [Text.capitalHex, Text.padLeft, hexValue?_replicate_zero_append,
    hexValue?_toDigits]

theorem length_capitalHex
    {width number : Nat} (positive : 0 < width)
    (fits : number < 16 ^ width) :
    (Text.capitalHex width number).length = width := by
  have atMost :=
    (Nat.length_toDigits_le_iff (by decide : 1 < 16) positive).2 fits
  simp only [Text.capitalHex, Text.padLeft, List.length_append,
    List.length_replicate, List.length_map]
  omega

/-- The code point of an escape is read back from its digits. -/
theorem takeCode_capitalHex
    (ending : Fault) {width : Nat} {letter : Letter} (rest : List Char)
    (positive : 0 < width) (fits : letter.code < 16 ^ width) :
    takeCode ending width (Text.capitalHex width letter.code ++ rest) =
      .ok letter.code := by
  have width_eq := length_capitalHex positive fits
  have digits :
      (Text.capitalHex width letter.code ++ rest).take width =
        Text.capitalHex width letter.code := by
    rw [List.take_append_of_le_length (by omega), List.take_of_length_le]
    omega
  have isCode : ¬ 0x110000 ≤ letter.code :=
    Nat.not_le.2 letter.code_lt_codePoints
  simp only [takeCode, digits, hexValue?_capitalHex, width_eq,
    Nat.lt_irrefl, if_false, checkCode, if_neg isCode]

/-- Every sign that is written names the character it is written for. -/
theorem lookup_shortEscapes_of_written
    {character sign : Char}
    (written : writtenEscapes.lookup character = some sign) :
    shortEscapes.lookup sign = some character := by
  have everySign :
      ∀ pair ∈ writtenEscapes, shortEscapes.lookup pair.2 = some pair.1 := by
    decide
  rcases List.lookup_eq_some_iff.1 written with ⟨before, after, table, _⟩
  apply everySign (character, sign)
  rw [table]
  simp

end NativeDeps.Yaml
