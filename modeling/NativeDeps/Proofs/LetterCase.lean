import NativeDeps.Proofs.Resolution

/-!
# Letter case in conditions

The small form of a sigma depends on the letters around it, so lower-casing looks beyond a
single character.  It does not look beyond a blank: no blank has case, and none is passed
over in the search for a letter.  So the blanks at the ends of a text can be removed before
or after it is lower-cased.

Hence a condition does not regard letter case.  A host may be named in lower case, and so
may any of the listed platforms, whatever blanks stand around the name of the host.
-/

namespace NativeDeps

namespace Text

/-- The blanks, as runs of code points. -/
def blankRuns : List (Nat × Nat) :=
  [(9, 13), (28, 32), (0x85, 0x85), (0xA0, 0xA0), (0x1680, 0x1680),
    (0x2000, 0x200A), (0x2028, 0x2029), (0x202F, 0x202F), (0x205F, 0x205F),
    (0x3000, 0x3000)]

/-- Whether no run of one table meets a run of another one. -/
def areApart (runs others : List (Nat × Nat)) : Bool :=
  runs.all fun run =>
    others.all fun other => run.2.blt other.1 || other.2.blt run.1

theorem inRuns_of_areApart
    {runs others : List (Nat × Nat)} (apart : areApart runs others = true)
    {code : Nat} (member : inRuns runs code = true) :
    inRuns others code = false := by
  rcases List.any_eq_true.1 member with ⟨run, isRun, inRun⟩
  apply List.any_eq_false.2
  intro other isOther inOther
  have runApart := List.all_eq_true.1 apart run isRun
  have clear := List.all_eq_true.1 runApart other isOther
  simp only [Bool.and_eq_true, Bool.or_eq_true, decide_eq_true_eq,
    Nat.blt_eq] at inRun inOther clear
  omega

variable {character : Char} {blanks : List Char}

theorem inRuns_blankRuns (blank : isBlank character = true) :
    inRuns blankRuns character.toNat = true := by
  simp only [isBlank, Bool.or_eq_true, Bool.and_eq_true, decide_eq_true_eq,
    beq_iff_eq] at blank
  simp only [inRuns, blankRuns, List.any_cons, List.any_nil, Bool.or_false,
    Bool.or_eq_true, Bool.and_eq_true, decide_eq_true_eq]
  omega

/-- The search for a neighbouring letter ends at a blank. -/
theorem isPassedOver_of_isBlank (blank : isBlank character = true) :
    isPassedOver character = false :=
  inRuns_of_areApart (by decide +kernel) (inRuns_blankRuns blank)

theorem isCased_of_isBlank (blank : isBlank character = true) :
    isCased character = false :=
  inRuns_of_areApart (by decide +kernel) (inRuns_blankRuns blank)

theorem lowerChar_of_isBlank (blank : isBlank character = true) :
    lowerChar character = character := by
  have noCapital :
      inRuns (capitalRuns.map fun run => (run.first, run.last))
          character.toNat =
        false :=
    inRuns_of_areApart (by decide +kernel) (inRuns_blankRuns blank)
  have notFound : capitalRuns.find? (·.holds character.toNat) = none := by
    apply List.find?_eq_none.2
    intro run member holds
    rw [inRuns, List.any_map, List.any_eq_false] at noCapital
    rw [CapitalRun.holds, Bool.and_eq_true] at holds
    exact noCapital run member holds.1
  rw [lowerChar, notFound]

theorem lowerAt_of_isBlank
    (letterBefore : Bool) (blank : isBlank character = true)
    (rest : List Char) : lowerAt letterBefore character rest = [character] := by
  have notSigma : (character == 'Σ') = false := by
    apply beq_eq_false_iff_ne.2
    rintro rfl
    cases blank
  have notDotted : (character == 'İ') = false := by
    apply beq_eq_false_iff_ne.2
    rintro rfl
    cases blank
  rw [lowerAt, notSigma, notDotted, lowerChar_of_isBlank blank]
  rfl

/-- Behind a blank a text is lower-cased as at its beginning. -/
theorem lowerFrom_cons_of_isBlank
    (letterBefore : Bool) (blank : isBlank character = true)
    (rest : List Char) :
    lowerFrom letterBefore (character :: rest) =
      character :: lowerFrom false rest := by
  rw [lowerFrom, lowerAt_of_isBlank letterBefore blank,
    isPassedOver_of_isBlank blank, isCased_of_isBlank blank,
    if_neg Bool.false_ne_true]
  rfl

theorem lowerFrom_blanks_append
    (areBlank : ∀ character ∈ blanks, isBlank character = true)
    (rest : List Char) :
    lowerFrom false (blanks ++ rest) = blanks ++ lowerFrom false rest := by
  induction blanks with
  | nil => rfl
  | cons blank others induction =>
      rcases List.forall_mem_cons.1 areBlank with ⟨isBlank, othersBlank⟩
      rw [List.cons_append, lowerFrom_cons_of_isBlank false isBlank,
        induction othersBlank, List.cons_append]

/-- Blanks that follow do not count as letters. -/
theorem letterFollows_append_blanks
    (areBlank : ∀ character ∈ blanks, isBlank character = true)
    (rest : List Char) :
    letterFollows (rest ++ blanks) = letterFollows rest := by
  rw [letterFollows, letterFollows, List.dropWhile_append]
  cases stops : rest.dropWhile isPassedOver with
  | cons next others => rfl
  | nil =>
      rw [List.isEmpty_nil, if_pos rfl]
      cases blanks with
      | nil => rfl
      | cons blank others =>
          have isBlank := areBlank blank List.mem_cons_self
          have notPassedOver : ¬ isPassedOver blank = true := by
            rw [isPassedOver_of_isBlank isBlank]
            exact Bool.false_ne_true
          rw [List.dropWhile_cons_of_neg notPassedOver]
          exact isCased_of_isBlank isBlank

/-- In front of blanks a text is lower-cased as at its end. -/
theorem lowerFrom_append_blanks
    (letterBefore : Bool) (characters : List Char)
    (areBlank : ∀ character ∈ blanks, isBlank character = true) :
    lowerFrom letterBefore (characters ++ blanks) =
      lowerFrom letterBefore characters ++ blanks := by
  induction characters generalizing letterBefore with
  | nil =>
      cases blanks with
      | nil => rfl
      | cons blank others =>
          rcases List.forall_mem_cons.1 areBlank with ⟨isBlank, othersBlank⟩
          have onlyBlanks := lowerFrom_blanks_append othersBlank []
          rw [List.append_nil, lowerFrom, List.append_nil] at onlyBlanks
          rw [List.nil_append, lowerFrom_cons_of_isBlank _ isBlank,
            onlyBlanks]
          rfl
  | cons character rest induction =>
      have sameHere :
          lowerAt letterBefore character (rest ++ blanks) =
            lowerAt letterBefore character rest := by
        rw [lowerAt, lowerAt, letterFollows_append_blanks areBlank]
      rw [List.cons_append, lowerFrom, lowerFrom, induction, sameHere,
        List.append_assoc]

end Text

namespace Spelling

open Text

variable {blanks : List Char}

/-- Blank letters are blank characters. -/
theorem exists_blanks {spelling : Spelling} (blank : spelling.IsBlank) :
    ∃ blanks : List Char,
      spelling = blanks.map .char ∧
        ∀ character ∈ blanks, Text.isBlank character = true := by
  induction spelling with
  | nil => exact ⟨[], rfl, List.forall_mem_nil _⟩
  | cons letter rest induction =>
      obtain ⟨isBlank, restBlank⟩ := List.forall_mem_cons.1 blank
      obtain ⟨blanks, rfl, areBlank⟩ := induction restBlank
      cases letter with
      | char character =>
          exact
            ⟨character :: blanks, rfl,
              List.forall_mem_cons.2 ⟨isBlank, areBlank⟩⟩
      | half place => cases isBlank

/-- In front of blanks a run is lower-cased as at the end. -/
theorem lowerRuns_append_blanks
    (run : List Char) (spelling : Spelling)
    (areBlank : ∀ character ∈ blanks, Text.isBlank character = true) :
    lowerRuns run (spelling ++ blanks.map .char) =
      lowerRuns run spelling ++ blanks.map .char := by
  induction spelling generalizing run with
  | nil =>
      rw [List.nil_append, lowerRuns_map_char,
        lowerFrom_append_blanks false _ areBlank, List.map_append, lowerRuns]
  | cons letter rest induction =>
      cases letter with
      | char character => exact induction (character :: run)
      | half place =>
          rw [List.cons_append, lowerRuns, lowerRuns, induction,
            List.append_assoc]
          rfl

/-- Blanks at the beginning of a run stay there. -/
theorem lowerRuns_blanks
    (run : List Char) (spelling : Spelling)
    (areBlank : ∀ character ∈ blanks, Text.isBlank character = true) :
    lowerRuns (run ++ blanks.reverse) spelling =
      blanks.map .char ++ lowerRuns run spelling := by
  have runLowered :
      ∀ run : List Char,
        lowerFrom false (run ++ blanks.reverse).reverse =
          blanks ++ lowerFrom false run.reverse := by
    intro run
    rw [List.reverse_append, List.reverse_reverse,
      lowerFrom_blanks_append areBlank]
  induction spelling generalizing run with
  | nil => rw [lowerRuns, lowerRuns, runLowered, List.map_append]
  | cons letter rest induction =>
      cases letter with
      | char character => exact induction (character :: run)
      | half place =>
          rw [lowerRuns, lowerRuns, runLowered, List.map_append,
            List.append_assoc]

theorem lowerRuns_map_append
    (run characters : List Char) (spelling : Spelling) :
    lowerRuns run (characters.map .char ++ spelling) =
      lowerRuns (characters.reverse ++ run) spelling := by
  induction characters generalizing run with
  | nil => rfl
  | cons character rest induction =>
      rw [List.map_cons, List.cons_append, lowerRuns, induction,
        List.reverse_cons, List.append_assoc]
      rfl

/-- Blanks at the ends can be removed before or after lower-casing. -/
theorem strip_lower_comm (spelling : Spelling) :
    spelling.lower.strip = spelling.strip.lower := by
  obtain ⟨before, after, beforeBlank, afterBlank, isAround⟩ :=
    exists_eq_append_trim Letter.isBlank spelling
  obtain ⟨front, rfl, frontBlank⟩ := exists_blanks beforeBlank
  obtain ⟨back, rfl, backBlank⟩ := exists_blanks afterBlank
  rw [← strip_eq_trim] at isAround
  have lowered :
      spelling.lower =
        front.map .char ++ spelling.strip.lower ++ back.map .char := by
    conv_lhs => rw [isAround]
    rw [lower, lowerRuns_append_blanks [] _ backBlank, lowerRuns_map_append,
      List.append_nil, ← List.nil_append front.reverse,
      lowerRuns_blanks [] _ frontBlank]
    rfl
  have trimmed :=
    isTrimmed_lower (isTrimmed_trim Letter.isBlank spelling)
  rw [← strip_eq_trim] at trimmed
  rw [lowered, strip_eq_trim, trim_append beforeBlank afterBlank,
    trim_eq_self_iff.2 trimmed]

end Spelling

namespace PlatformCondition

/-- A host is compared in the same form, whatever the letter case of its name. -/
theorem hostKey_lower (host : Spelling) :
    hostKey host.lower = hostKey host := by
  rw [hostKey, hostKey, Spelling.strip_lower_comm, Spelling.lower_lower]

theorem holds_iff (condition : PlatformCondition) (host : Spelling) :
    condition.holds (some host) = true ↔
      host ≠ "" ∧
        ∃ platform ∈ condition.platforms,
          hostKey host = platform.lower := by
  simp [holds]

/-- A condition with the platforms at some places of its list in lower case. -/
def lowerAt (condition : PlatformCondition) (isChosen : Nat → Bool) :
    PlatformCondition where
  platforms :=
    condition.platforms.mapIdx fun place platform =>
      if isChosen place then platform.lower else platform

/-- In lower case all platforms are the same, whether or not some of them were before. -/
theorem map_lower_lowerAt
    (condition : PlatformCondition) (isChosen : Nat → Bool) :
    (condition.lowerAt isChosen).platforms.map Spelling.lower =
      condition.platforms.map Spelling.lower := by
  apply List.ext_getElem
  · rw [lowerAt, List.length_map, List.length_mapIdx, List.length_map]
  · intro place _ isPlace
    simp only [lowerAt, List.getElem_map, List.getElem_mapIdx]
    split
    · exact Spelling.lower_lower _
    · rfl

/-- A condition compares the form of a host with its platforms in lower case. -/
theorem holds_eq (condition : PlatformCondition) (host : Spelling) :
    condition.holds (some host) =
      (host != "" &&
        (condition.platforms.map Spelling.lower).any (hostKey host == ·)) := by
  rw [holds, List.any_map]
  rfl

theorem holdsOn_eq (condition : PlatformCondition) (host : Value) :
    condition.holdsOn host =
      if host.isGiven then do
        let key ← (← host.stripped).lowered
        return (condition.platforms.map Spelling.lower).any fun platform =>
          key.sameKey (.ofSpelling platform)
      else
        .ok false := by
  simp only [List.any_map]
  rfl

/-- A condition holds on a host whose name is in lower case where it holds on the host. -/
theorem holds_lower
    (condition : PlatformCondition) (host : Option Spelling) :
    condition.holds (host.map Spelling.lower) = condition.holds host := by
  cases host with
  | none => rfl
  | some host =>
      have sameEmptiness : (host.lower != "") = (host != "") := by
        rw [Bool.eq_iff_iff, bne_iff_ne, bne_iff_ne]
        exact Spelling.lower_eq_nil_iff.not
      rw [Option.map_some, holds_eq, holds_eq, hostKey_lower, sameEmptiness]

/--
Letter case does not matter to a condition: neither that of the host, whatever blanks
stand around its name and whatever halves of characters are in it, nor that of any of the
platforms that are listed.
-/
theorem holds_in_any_letter_case
    (condition : PlatformCondition) (isChosen : Nat → Bool) :
    (∀ host : Option Spelling,
        condition.holds (host.map Spelling.lower) = condition.holds host ∧
          (condition.lowerAt isChosen).holds host = condition.holds host) ∧
      (∀ host : Spelling,
        condition.holdsOn (.ofSpelling host.lower) =
          condition.holdsOn (.ofSpelling host)) ∧
      ∀ host : Value,
        (condition.lowerAt isChosen).holdsOn host =
          condition.holdsOn host := by
  constructor
  · intro host
    refine ⟨condition.holds_lower host, ?_⟩
    cases host with
    | none => rfl
    | some host => rw [holds_eq, holds_eq, map_lower_lowerAt]
  constructor
  · intro host
    have lowered := condition.holdsOn_ofSpellingOrNull (some host.lower)
    have asSpelt := condition.holdsOn_ofSpellingOrNull (some host)
    have same := condition.holds_lower (some host)
    rw [Option.map_some] at same
    rw [same, ← asSpelt] at lowered
    exact lowered
  · intro host
    rw [holdsOn_eq, holdsOn_eq, map_lower_lowerAt]

/-- A final sigma and a dotted capital I between blanks are compared like their small forms. -/
example :
    let condition : PlatformCondition := ⟨["ΟΔΟΣ", "İx"]⟩
    condition.holds (some ("\u2003οδος " : Spelling)) = true ∧
      condition.holds (some ("\u2003i̇X " : Spelling)) = true := by
  decide +kernel

end PlatformCondition

end NativeDeps
