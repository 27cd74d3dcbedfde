import NativeDeps.Proofs.Text.Blank
import NativeDeps.Text.LowerCase

/-!
# Small letters stay small

The small forms in the table of capital letters are no capital letters themselves, and
they are no blanks.  So a text in lower case is left as it is by lower-casing, wherever
its letters stand, and no blank comes to either end of a text by lower-casing.
-/

namespace NativeDeps.Text

namespace CapitalRun

/-- Whether the small forms of a run lie outside of an interval. -/
def clears (run : CapitalRun) (first last : Nat) : Bool :=
  (run.image + (run.last - run.first)).blt first || last.blt run.image

/--
Whether the small forms of a run are no capital letters of another one: they lie outside
of it, or between its letters.
-/
def avoids (run other : CapitalRun) : Bool :=
  run.clears other.first other.last ||
    (run.stride.beq 2 || run.first.beq run.last) && other.stride.beq 2 &&
      ((run.image + other.first) % 2).beq 1

/-- The dotted capital I, the blanks, and the halves of characters. -/
def clearIntervals : List (Nat × Nat) :=
  [(0x130, 0x130), (9, 13), (28, 32), (0x85, 0x85), (0xA0, 0xA0),
    (0x1680, 0x1680), (0x2000, 0x200A), (0x2028, 0x2029), (0x202F, 0x202F),
    (0x205F, 0x205F), (0x3000, 0x3000), (0xD800, 0xDFFF)]

/-- What is checked of every run of the table. -/
structure IsSound (run : CapitalRun) : Prop where
  isCode : run.image + (run.last - run.first) < 0x110000
  clears : ∀ interval ∈ clearIntervals, run.clears interval.1 interval.2
  avoids : ∀ other ∈ capitalRuns, run.avoids other

theorem isSound_of_mem {run : CapitalRun} (member : run ∈ capitalRuns) :
    run.IsSound := by
  have codes :
      ∀ run ∈ capitalRuns, run.image + (run.last - run.first) < 0x110000 := by
    decide +kernel
  have clear :
      ∀ run ∈ capitalRuns,
        ∀ interval ∈ clearIntervals, run.clears interval.1 interval.2 := by
    decide +kernel
  have avoided :
      (capitalRuns.all fun run => capitalRuns.all run.avoids) = true := by
    decide +kernel
  exact
    ⟨codes run member, clear run member,
      List.all_eq_true.1 (List.all_eq_true.1 avoided run member)⟩

variable {run other : CapitalRun} {code : Nat}

theorem lower_of_clears {first last : Nat}
    (clears : run.clears first last = true) (holds : run.holds code = true) :
    run.lower code < first ∨ last < run.lower code := by
  simp only [CapitalRun.clears, CapitalRun.holds, CapitalRun.lower,
    Bool.or_eq_true, Bool.and_eq_true, decide_eq_true_eq, Nat.blt_eq] at *
  omega

theorem holds_lower_of_avoids
    (avoids : run.avoids other = true) (holds : run.holds code = true) :
    other.holds (run.lower code) = false := by
  rw [CapitalRun.avoids, Bool.or_eq_true] at avoids
  cases otherHolds : other.holds (run.lower code) with
  | false => rfl
  | true =>
      rcases avoids with clears | between
      · have outside := lower_of_clears clears holds
        simp only [CapitalRun.holds, Bool.and_eq_true,
          decide_eq_true_eq] at otherHolds
        omega
      · simp only [Bool.and_eq_true, Bool.or_eq_true, Nat.beq_eq] at between
        obtain ⟨⟨stride, otherStride⟩, odd⟩ := between
        simp only [CapitalRun.holds, Bool.and_eq_true, decide_eq_true_eq,
          beq_iff_eq, otherStride] at holds otherHolds
        rw [CapitalRun.lower] at otherHolds
        rcases stride with stride | single
        · rw [stride] at holds
          omega
        · omega

end CapitalRun

/-- A character that lower-casing leaves as it is, wherever it stands. -/
def IsSmall (character : Char) : Prop :=
  lowerChar character = character ∧ character ≠ 'Σ' ∧ character ≠ 'İ'

instance (character : Char) : Decidable (IsSmall character) :=
  inferInstanceAs (Decidable (_ ∧ _ ∧ _))

/-- What is found for a character is the small form of one of the runs, or itself. -/
theorem lowerChar_cases (character : Char) :
    (∃ run ∈ capitalRuns,
      run.holds character.toNat = true ∧
        (lowerChar character).toNat = run.lower character.toNat) ∨
      lowerChar character = character ∧
        capitalRuns.find? (·.holds character.toNat) = none := by
  rw [lowerChar]
  cases found : capitalRuns.find? (·.holds character.toNat) with
  | none => exact .inr ⟨rfl, rfl⟩
  | some run =>
      have member := List.mem_of_find?_eq_some found
      have holds := List.find?_some found
      have sound := CapitalRun.isSound_of_mem member
      have isCharacter : (run.lower character.toNat).isValidChar := by
        have isCode := sound.isCode
        have noHalf :=
          CapitalRun.lower_of_clears
            (sound.clears (0xD800, 0xDFFF) (by decide)) holds
        have below : character.toNat ≤ run.last := by
          simp only [CapitalRun.holds, Bool.and_eq_true,
            decide_eq_true_eq] at holds
          exact holds.1.2
        simp only [Nat.isValidChar, CapitalRun.lower] at noHalf ⊢
        omega
      refine .inl ⟨run, member, holds, ?_⟩
      dsimp only
      rw [Char.ofNat, dif_pos isCharacter]
      rfl

theorem isSmall_lowerChar {character : Char}
    (notSigma : character ≠ 'Σ') (notDotted : character ≠ 'İ') :
    IsSmall (lowerChar character) := by
  rcases lowerChar_cases character with
    ⟨run, member, holds, same⟩ | ⟨same, _⟩
  · have sound := CapitalRun.isSound_of_mem member
    have notFound :
        capitalRuns.find? (·.holds (lowerChar character).toNat) = none := by
      rw [List.find?_eq_none, same]
      intro other otherMember
      rw [CapitalRun.holds_lower_of_avoids (sound.avoids other otherMember)
        holds]
      exact Bool.false_ne_true
    have outside :=
      CapitalRun.lower_of_clears (sound.clears (0x130, 0x130) (by decide))
        holds
    rw [← same] at outside
    refine ⟨?_, ?_, ?_⟩
    · rw [lowerChar, notFound]
    · intro isSigma
      rw [isSigma] at notFound
      revert notFound
      decide +kernel
    · intro isDotted
      rw [isDotted] at outside
      revert outside
      decide
  · rw [same]
    exact ⟨same, notSigma, notDotted⟩

/-- What lower-casing makes of a character is small. -/
theorem isSmall_of_mem_lowerAt
    {letterBefore : Bool} {character small : Char} {rest : List Char}
    (member : small ∈ lowerAt letterBefore character rest) :
    IsSmall small := by
  rw [lowerAt] at member
  split_ifs at member with isSigma isFinal isDotted
  · rw [List.mem_singleton.1 member]
    decide +kernel
  · rw [List.mem_singleton.1 member]
    decide +kernel
  · simp only [List.mem_cons, List.not_mem_nil, or_false] at member
    rcases member with rfl | rfl
    · decide +kernel
    · decide +kernel
  · rw [List.mem_singleton.1 member]
    exact
      isSmall_lowerChar (by simpa using isSigma) (by simpa using isDotted)

theorem isSmall_of_mem_lowerFrom
    {letterBefore : Bool} {characters : List Char} {small : Char}
    (member : small ∈ lowerFrom letterBefore characters) :
    IsSmall small := by
  induction characters generalizing letterBefore with
  | nil => cases member
  | cons character rest induction =>
      rw [lowerFrom, List.mem_append] at member
      rcases member with here | later
      · exact isSmall_of_mem_lowerAt here
      · exact induction later

theorem lowerFrom_of_isSmall
    (letterBefore : Bool) {characters : List Char}
    (small : ∀ character ∈ characters, IsSmall character) :
    lowerFrom letterBefore characters = characters := by
  induction characters generalizing letterBefore with
  | nil => rfl
  | cons character rest induction =>
      obtain ⟨⟨itself, notSigma, notDotted⟩, restSmall⟩ :=
        List.forall_mem_cons.1 small
      have stays :
          lowerAt letterBefore character rest = [character] := by
        rw [lowerAt, if_neg (by simpa using notSigma),
          if_neg (by simpa using notDotted), itself]
      rw [lowerFrom, stays, induction _ restSmall]
      rfl

/-- A text in lower case is its own small form. -/
@[simp]
theorem lower_lower (text : String) : lower (lower text) = lower text := by
  rw [lower, lower, String.toList_ofList]
  exact
    congrArg String.ofList
      (lowerFrom_of_isSmall false fun _ member =>
        isSmall_of_mem_lowerFrom member)

theorem lowerAt_ne_nil
    (letterBefore : Bool) (character : Char) (rest : List Char) :
    lowerAt letterBefore character rest ≠ [] := by
  rw [lowerAt]
  split_ifs <;> exact List.cons_ne_nil _ _

/-- Lower-casing makes no blanks. -/
theorem isBlank_of_mem_lowerAt
    {letterBefore : Bool} {character small : Char} {rest : List Char}
    (notBlank : isBlank character = false)
    (member : small ∈ lowerAt letterBefore character rest) :
    isBlank small = false := by
  rw [lowerAt] at member
  split_ifs at member with isSigma isFinal isDotted
  · rw [List.mem_singleton.1 member]
    rfl
  · rw [List.mem_singleton.1 member]
    rfl
  · simp only [List.mem_cons, List.not_mem_nil, or_false] at member
    rcases member with rfl | rfl
    · rfl
    · rfl
  · rw [List.mem_singleton.1 member]
    rcases lowerChar_cases character with
      ⟨run, runMember, holds, same⟩ | ⟨same, _⟩
    · have outside :
          ∀ interval ∈ CapitalRun.clearIntervals,
            (lowerChar character).toNat < interval.1 ∨
              interval.2 < (lowerChar character).toNat := by
        intro interval isInterval
        rw [same]
        exact
          CapitalRun.lower_of_clears
            ((CapitalRun.isSound_of_mem runMember).clears interval isInterval)
            holds
      simp only [CapitalRun.clearIntervals, List.forall_mem_cons] at outside
      simp only [isBlank, Bool.or_eq_false_iff, Bool.and_eq_false_iff,
        decide_eq_false_iff_not, beq_eq_false_iff_ne]
      omega
    · rw [same]
      exact notBlank

theorem lowerFrom_eq_nil_iff
    (letterBefore : Bool) (characters : List Char) :
    lowerFrom letterBefore characters = [] ↔ characters = [] := by
  cases characters with
  | nil => exact iff_of_true rfl rfl
  | cons character rest =>
      refine iff_of_false ?_ (List.cons_ne_nil _ _)
      exact List.append_ne_nil_of_left_ne_nil (lowerAt_ne_nil _ _ _) _

/-- A text in lower case begins with a blank only if it did before. -/
theorem isBlank_head?_lowerFrom
    (letterBefore : Bool) {characters : List Char}
    (notBlank : ∀ first ∈ characters.head?, isBlank first = false) :
    ∀ first ∈ (lowerFrom letterBefore characters).head?,
      isBlank first = false := by
  cases characters with
  | nil => exact nofun
  | cons character rest =>
      intro first isFirst
      rw [lowerFrom, List.head?_append_of_ne_nil _
        (lowerAt_ne_nil _ _ _)] at isFirst
      exact
        isBlank_of_mem_lowerAt (notBlank character rfl)
          (List.mem_of_mem_head? isFirst)

/-- A text in lower case ends with a blank only if it did before. -/
theorem isBlank_getLast?_lowerFrom
    (letterBefore : Bool) {characters : List Char}
    (notBlank : ∀ last ∈ characters.getLast?, isBlank last = false) :
    ∀ last ∈ (lowerFrom letterBefore characters).getLast?,
      isBlank last = false := by
  induction characters generalizing letterBefore with
  | nil => exact nofun
  | cons character rest induction =>
      intro last isLast
      rw [lowerFrom] at isLast
      cases rest with
      | nil =>
          rw [lowerFrom, List.append_nil] at isLast
          exact
            isBlank_of_mem_lowerAt (notBlank character rfl)
              (List.mem_of_mem_getLast? isLast)
      | cons next others =>
          rw [List.getLast?_append_of_ne_nil _
            ((lowerFrom_eq_nil_iff _ _).not.2 (List.cons_ne_nil _ _))]
            at isLast
          rw [List.getLast?_cons_cons] at notBlank
          exact induction _ notBlank last isLast

end NativeDeps.Text
