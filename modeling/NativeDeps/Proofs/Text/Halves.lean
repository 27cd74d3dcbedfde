import NativeDeps.Proofs.Text.LowerCase
import NativeDeps.Proofs.Text.Spelling

/-!
# Small letters between halves of characters

In a text with halves of characters the characters between two halves are lower-cased by
themselves, and the halves stay.  So what holds of lower case and of blanks in a text holds
in one with halves: in lower case it is left as it is by lower-casing, and no blanks come
to its ends.
-/

namespace NativeDeps.Spelling

open Text

/-- A letter that is left as it is: a half, or a small character. -/
def IsSmallLetter : Letter → Prop
  | .char character => IsSmall character
  | .half _ => True

variable {run : List Char} {spelling : Spelling} {letter : Letter}

theorem isSmallLetter_of_mem_map
    {letterBefore : Bool} {characters : List Char}
    (member : letter ∈ (lowerFrom letterBefore characters).map Letter.char) :
    IsSmallLetter letter := by
  obtain ⟨character, isSmall, rfl⟩ := List.mem_map.1 member
  exact isSmall_of_mem_lowerFrom isSmall

theorem isSmallLetter_of_mem_lowerRuns
    (member : letter ∈ lowerRuns run spelling) : IsSmallLetter letter := by
  induction spelling generalizing run with
  | nil => exact isSmallLetter_of_mem_map member
  | cons next rest induction =>
      cases next with
      | char character => exact induction member
      | half place =>
          rw [lowerRuns, List.mem_append, List.mem_cons] at member
          rcases member with here | rfl | later
          · exact isSmallLetter_of_mem_map here
          · trivial
          · exact induction later

/-- Small letters are left as they are. -/
theorem lowerRuns_of_small
    (runSmall : ∀ character ∈ run, IsSmall character)
    (small : ∀ letter ∈ spelling, IsSmallLetter letter) :
    lowerRuns run spelling = run.reverse.map Letter.char ++ spelling := by
  have runKept : lowerFrom false run.reverse = run.reverse :=
    lowerFrom_of_isSmall false fun character member =>
      runSmall character (List.mem_reverse.1 member)
  induction spelling generalizing run with
  | nil => rw [lowerRuns, List.append_nil, runKept]
  | cons next rest induction =>
      obtain ⟨nextSmall, restSmall⟩ := List.forall_mem_cons.1 small
      cases next with
      | char character =>
          have moreSmall : ∀ other ∈ character :: run, IsSmall other :=
            List.forall_mem_cons.2 ⟨nextSmall, runSmall⟩
          have moreKept :
              lowerFrom false (character :: run).reverse =
                (character :: run).reverse :=
            lowerFrom_of_isSmall false fun other member =>
              moreSmall other (List.mem_reverse.1 member)
          rw [lowerRuns, induction moreSmall restSmall moreKept]
          simp
      | half place =>
          rw [lowerRuns, runKept,
            induction (List.forall_mem_nil _) restSmall rfl]
          rfl

/-- A text with halves that is in lower case is left as it is. -/
@[simp]
theorem lower_lower (spelling : Spelling) :
    spelling.lower.lower = spelling.lower :=
  lowerRuns_of_small nofun fun _ member =>
    isSmallLetter_of_mem_lowerRuns member

/-- Letters behind a run are lower-cased as characters, as long as there is no half. -/
theorem lowerRuns_map_char (run characters : List Char) :
    lowerRuns run (characters.map .char) =
      (lowerFrom false (run.reverse ++ characters)).map .char := by
  induction characters generalizing run with
  | nil => rw [List.append_nil, List.map_nil, lowerRuns]
  | cons character rest induction =>
      rw [List.map_cons, lowerRuns, induction, List.reverse_cons,
        List.append_assoc]
      rfl

@[simp]
theorem lower_ofText (text : String) : lower text = ofText (Text.lower text) := by
  rw [lower, ofText, lowerRuns_map_char, Text.lower, ofText_ofList]
  rfl

theorem lowerRuns_eq_nil_iff :
    lowerRuns run spelling = [] ↔ run = [] ∧ spelling = [] := by
  induction spelling generalizing run with
  | nil =>
      rw [lowerRuns, List.map_eq_nil_iff, lowerFrom_eq_nil_iff,
        List.reverse_eq_nil_iff]
      simp
  | cons next rest induction =>
      cases next with
      | char character =>
          rw [lowerRuns, induction]
          simp
      | half place => simp [lowerRuns]

theorem lower_eq_nil_iff : spelling.lower = [] ↔ spelling = [] := by
  rw [lower, lowerRuns_eq_nil_iff]
  exact and_iff_right rfl

/-- Characters in lower case begin with a blank only if the run did. -/
theorem isBlank_head?_map
    (notBlank : ∀ first ∈ run.getLast?, Text.isBlank first = false) :
    ∀ first ∈ ((lowerFrom false run.reverse).map Letter.char).head?,
      first.isBlank = false := by
  intro first isFirst
  rw [List.head?_map] at isFirst
  obtain ⟨character, isHead, rfl⟩ := Option.map_eq_some_iff.1 isFirst
  refine isBlank_head?_lowerFrom false ?_ character isHead
  rwa [List.head?_reverse]

/-- A text with halves begins with a blank in lower case only if it did before. -/
theorem isBlank_head?_lowerRuns
    (runNotBlank : ∀ first ∈ run.getLast?, Text.isBlank first = false)
    (notBlank : run = [] → ∀ first ∈ spelling.head?, first.isBlank = false) :
    ∀ first ∈ (lowerRuns run spelling).head?, first.isBlank = false := by
  induction spelling generalizing run with
  | nil => exact isBlank_head?_map runNotBlank
  | cons next rest induction =>
      cases next with
      | half place =>
          intro first isFirst
          rw [lowerRuns, List.head?_append, Option.mem_def,
            Option.or_eq_some_iff] at isFirst
          rcases isFirst with here | ⟨_, isNext⟩
          · exact isBlank_head?_map runNotBlank first here
          · obtain rfl := Option.some.inj isNext
            rfl
      | char character =>
          refine induction ?_ nofun
          intro first isFirst
          rw [List.getLast?_cons] at isFirst
          cases ends : run.getLast? with
          | some last =>
              rw [ends] at isFirst
              exact runNotBlank first (ends.trans isFirst)
          | none =>
              rw [ends] at isFirst
              obtain rfl := Option.some.inj isFirst
              exact
                notBlank (List.getLast?_eq_none_iff.1 ends) (.char character)
                  rfl

/-- A text with halves ends with a blank in lower case only if it did before. -/
theorem isBlank_getLast?_lowerRuns
    (notBlank : ∀ last ∈ spelling.getLast?, last.isBlank = false)
    (runNotBlank :
      spelling = [] → ∀ last ∈ run.head?, Text.isBlank last = false) :
    ∀ last ∈ (lowerRuns run spelling).getLast?, last.isBlank = false := by
  induction spelling generalizing run with
  | nil =>
      intro last isLast
      rw [lowerRuns, List.getLast?_map] at isLast
      obtain ⟨character, ends, rfl⟩ := Option.map_eq_some_iff.1 isLast
      refine isBlank_getLast?_lowerFrom false ?_ character ends
      rw [List.getLast?_reverse]
      exact runNotBlank rfl
  | cons next rest induction =>
      have restNotBlank :
          ∀ last ∈ rest.getLast?, last.isBlank = false := by
        intro last isLast
        refine notBlank last ?_
        rw [List.getLast?_cons, isLast]
        rfl
      cases next with
      | half place =>
          intro last isLast
          rw [lowerRuns,
            List.getLast?_append_of_ne_nil _ (List.cons_ne_nil _ _),
            List.getLast?_cons] at isLast
          cases ends : (lowerRuns [] rest).getLast? with
          | some other =>
              rw [ends] at isLast
              have noRun :
                  rest = [] → ∀ last ∈ ([] : List Char).head?,
                    Text.isBlank last = false :=
                nofun
              exact induction restNotBlank noRun last (ends.trans isLast)
          | none =>
              rw [ends] at isLast
              obtain rfl := Option.some.inj isLast
              rfl
      | char character =>
          refine induction restNotBlank ?_
          rintro rfl last isLast
          obtain rfl := Option.some.inj isLast
          exact notBlank (.char character) rfl

/-- A text without blanks around it has none in lower case. -/
theorem isTrimmed_lower (trimmed : IsTrimmed Letter.isBlank spelling) :
    IsTrimmed Letter.isBlank spelling.lower where
  first := isBlank_head?_lowerRuns nofun fun _ => trimmed.first
  last := isBlank_getLast?_lowerRuns trimmed.last nofun

theorem strip_lower (trimmed : spelling.strip = spelling) :
    spelling.lower.strip = spelling.lower :=
  trim_eq_self_iff.2 (isTrimmed_lower (trim_eq_self_iff.1 trimmed))

end NativeDeps.Spelling
