import Mathlib.Data.List.DropRight
import NativeDeps.Text.Spelling

/-!
# Blanks at the ends

What is left of a list when the elements of some kind are removed at both of its ends, be
they blank characters or blank letters.  None of them stands at an end of what is left, so
nothing more is removed from it.
-/

namespace NativeDeps

namespace Text

variable {α : Type} {isGap : α → Bool} {items : List α}

/-- A list without the elements of a kind at its ends. -/
def trim (isGap : α → Bool) (items : List α) : List α :=
  (items.dropWhile isGap).rdropWhile isGap

/-- No element of a kind stands at an end of a list. -/
structure IsTrimmed (isGap : α → Bool) (items : List α) : Prop where
  first : ∀ first ∈ items.head?, isGap first = false
  last : ∀ last ∈ items.getLast?, isGap last = false

theorem isTrimmed_trim (isGap : α → Bool) (items : List α) :
    IsTrimmed isGap (trim isGap items) where
  first := by
    intro first isFirst
    obtain ⟨rest, same⟩ :=
      List.rdropWhile_prefix isGap (items.dropWhile isGap)
    have isFirstBefore : (items.dropWhile isGap).head? = some first := by
      rw [← same, List.head?_append, ← trim, isFirst]
      rfl
    have notGap := List.head?_dropWhile_not isGap items
    rw [isFirstBefore] at notGap
    exact notGap
  last := by
    intro last isLast
    obtain ⟨isSome, rfl⟩ := List.mem_getLast?_eq_getLast isLast
    exact eq_false_of_ne_true (List.rdropWhile_last_not isGap _ isSome)

theorem trim_eq_self_iff : trim isGap items = items ↔ IsTrimmed isGap items := by
  constructor
  · intro same
    rw [← same]
    exact isTrimmed_trim isGap items
  · rintro ⟨first, last⟩
    have frontKept : items.dropWhile isGap = items := by
      cases items with
      | nil => rfl
      | cons item rest =>
          refine List.dropWhile_cons_of_neg ?_
          rw [first item rfl]
          exact Bool.false_ne_true
    rw [trim, frontKept, List.rdropWhile_eq_self_iff]
    intro isSome
    rw [last _ (List.getLast?_eq_some_getLast isSome)]
    exact Bool.false_ne_true

/-- Nothing is left to remove at the ends. -/
theorem trim_trim (isGap : α → Bool) (items : List α) :
    trim isGap (trim isGap items) = trim isGap items :=
  trim_eq_self_iff.2 (isTrimmed_trim isGap items)

/-- What is removed at the ends does not matter. -/
theorem trim_append
    {before after : List α} (beforeGaps : ∀ item ∈ before, isGap item = true)
    (afterGaps : ∀ item ∈ after, isGap item = true) (items : List α) :
    trim isGap (before ++ items ++ after) = trim isGap items := by
  have afterReversed : ∀ item ∈ after.reverse, isGap item = true := by
    intro item member
    exact afterGaps item (List.mem_reverse.1 member)
  rw [trim, trim, List.append_assoc,
    List.dropWhile_append_of_pos beforeGaps, List.dropWhile_append]
  split_ifs with isEmpty
  · rw [List.isEmpty_iff.1 isEmpty, List.dropWhile_eq_nil_iff.2 afterGaps]
  · rw [List.rdropWhile, List.reverse_append,
      List.dropWhile_append_of_pos afterReversed, ← List.rdropWhile]

/-- A list is what is left of it, between what is removed at its ends. -/
theorem exists_eq_append_trim (isGap : α → Bool) (items : List α) :
    ∃ before after,
      (∀ item ∈ before, isGap item = true) ∧
        (∀ item ∈ after, isGap item = true) ∧
        items = before ++ trim isGap items ++ after := by
  refine
    ⟨items.takeWhile isGap, (items.dropWhile isGap).rtakeWhile isGap,
      fun _ member => List.mem_takeWhile_imp member,
      fun _ member => List.mem_rtakeWhile_imp member, ?_⟩
  rw [trim, List.append_assoc, List.rdropWhile_append_rtakeWhile,
    List.takeWhile_append_dropWhile]

/-- Nothing is left exactly if everything is of the kind that is removed. -/
theorem trim_eq_nil_iff :
    trim isGap items = [] ↔ ∀ item ∈ items, isGap item = true := by
  constructor
  · intro isEmpty
    rcases exists_eq_append_trim isGap items with
      ⟨before, after, beforeGaps, afterGaps, isAround⟩
    intro item member
    rw [isAround, isEmpty, List.append_nil, List.mem_append] at member
    exact member.elim (beforeGaps item) (afterGaps item)
  · intro areGaps
    have nothing := trim_append areGaps (List.forall_mem_nil _) []
    rwa [List.append_nil, List.append_nil] at nothing

end Text

namespace Spelling

theorem strip_eq_trim (spelling : Spelling) :
    spelling.strip = Text.trim Letter.isBlank spelling :=
  rfl

/-- The blanks around a text are those of its spelling. -/
@[simp]
theorem strip_ofText (text : String) : strip text = ofText (Text.strip text) := by
  have sameBlanks : Letter.isBlank ∘ Letter.char = Text.isBlank := rfl
  rw [strip, ofText, List.dropWhile_map, sameBlanks, ← List.map_reverse,
    List.dropWhile_map, sameBlanks, ← List.map_reverse, Text.strip, ofText,
    String.toList_ofList, Text.stripChars]

@[simp]
theorem strip_strip (spelling : Spelling) :
    spelling.strip.strip = spelling.strip :=
  Text.trim_trim Letter.isBlank spelling

/-- A text with nothing but blanks in it, be it the empty one. -/
def IsBlank (spelling : Spelling) : Prop :=
  ∀ letter ∈ spelling, letter.isBlank = true

instance (spelling : Spelling) : Decidable spelling.IsBlank :=
  decidable_of_iff (spelling.all Letter.isBlank = true) List.all_eq_true

theorem strip_eq_nil_iff (spelling : Spelling) :
    spelling.strip = [] ↔ spelling.IsBlank :=
  Text.trim_eq_nil_iff

end Spelling

end NativeDeps
