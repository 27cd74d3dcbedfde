import Mathlib.Data.List.Basic
import NativeDeps.Files.Path

/-!
# The text of a path

A path that was read from a text has parts that lead somewhere and hold no slash.  Of
such a path nothing is lost when it is written, so a path that is handed to another
program as a text still denotes the same place there.

A resolved path consists of names: walking from a place whose names lead down, each
`..` takes a name away and every other part adds one.
-/

namespace NativeDeps.Files

/-- Whether a text can be a part of a path: it leads anywhere and holds no slash. -/
def IsPart (part : Spelling) : Prop :=
  part ≠ "" ∧ part ≠ "." ∧ .char '/' ∉ part

/-- Whether a part of a path is the name of something. -/
def IsName (part : Spelling) : Prop :=
  IsPart part ∧ part ≠ ".."

theorem splitSlashes_of_not_mem {spelling : Spelling}
    (noSlash : .char '/' ∉ spelling) : splitSlashes spelling = [spelling] := by
  induction spelling with
  | nil => rfl
  | cons letter rest induction =>
      rw [List.mem_cons, not_or] at noSlash
      rcases noSlash with ⟨differs, restNoSlash⟩
      simp [splitSlashes, Ne.symm differs, induction restNoSlash]

theorem splitSlashes_append {part : Spelling}
    (noSlash : .char '/' ∉ part) (rest : Spelling) :
    splitSlashes (part ++ .char '/' :: rest) = part :: splitSlashes rest := by
  induction part with
  | nil => simp [splitSlashes]
  | cons letter others induction =>
      rw [List.mem_cons, not_or] at noSlash
      rcases noSlash with ⟨differs, othersNoSlash⟩
      simp [splitSlashes, Ne.symm differs, induction othersNoSlash]

theorem not_mem_of_mem_splitSlashes {spelling part : Spelling}
    (member : part ∈ splitSlashes spelling) : .char '/' ∉ part := by
  induction spelling generalizing part with
  | nil => simp_all [splitSlashes]
  | cons letter rest induction =>
      rw [splitSlashes] at member
      split_ifs at member with isSlash
      · rcases List.mem_cons.1 member with rfl | member
        · exact List.not_mem_nil
        · exact induction member
      · have differs : .char '/' ≠ letter := by
          rintro rfl
          exact isSlash rfl
        cases split : splitSlashes rest with
        | nil =>
            rw [split, List.mem_singleton] at member
            rw [member, List.mem_singleton]
            exact differs
        | cons first others =>
            rw [split] at member induction
            rcases List.mem_cons.1 member with rfl | member
            · have restNoSlash := induction List.mem_cons_self
              simp [differs, restNoSlash]
            · exact induction (List.mem_cons_of_mem _ member)

/-- The parts that a text was joined from are the parts that it is split into. -/
theorem splitSlashes_intercalate {part : Spelling} {parts : List Spelling}
    (noSlash : ∀ other ∈ part :: parts, .char '/' ∉ other) :
    splitSlashes (List.intercalate "/" (part :: parts)) = part :: parts := by
  induction parts generalizing part with
  | nil =>
      have partNoSlash := noSlash part List.mem_cons_self
      rw [List.intercalate_singleton]
      exact splitSlashes_of_not_mem partNoSlash
  | cons next rest induction =>
      have partNoSlash := noSlash part List.mem_cons_self
      have restSplit :=
        induction fun other member =>
          noSlash other (List.mem_cons_of_mem _ member)
      rw [List.intercalate_cons_cons, List.append_assoc]
      exact (splitSlashes_append partNoSlash _).trans (congrArg _ restSplit)

/-- A joined text that starts with a part does not start with a slash. -/
theorem anchorOf_slash_intercalate {part : Spelling} (isPart : IsPart part)
    (parts : List Spelling) :
    anchorOf (.char '/' :: List.intercalate "/" (part :: parts)) = .root := by
  have starts :
      ∃ rest, List.intercalate "/" (part :: parts) = part ++ rest := by
    cases parts with
    | nil => exact ⟨[], by simp⟩
    | cons next others =>
        rw [List.intercalate_cons_cons, List.append_assoc]
        exact ⟨_, rfl⟩
  rcases isPart with ⟨notEmpty, _, noSlash⟩
  obtain ⟨rest, startsWith⟩ := starts
  rw [startsWith]
  cases part with
  | nil => exact absurd rfl notEmpty
  | cons letter others =>
      rw [List.mem_cons, not_or] at noSlash
      simp [anchorOf, Ne.symm noSlash.1]

theorem isPart_iff {part : Spelling} :
    Files.isPart part = true ↔ part ≠ "" ∧ part ≠ "." := by
  rw [Files.isPart, Bool.and_eq_true, bne_iff_ne, Bool.not_eq_true',
    List.isEmpty_eq_false_iff]
  rfl

namespace Path

/-- Whether every part of a path can be one, as in a path that was read from a text. -/
def IsProper (path : Path) : Prop :=
  ∀ part ∈ path.parts, IsPart part

theorem isProper_ofSpelling (spelling : Spelling) :
    (ofSpelling spelling).IsProper := by
  intro part member
  obtain ⟨split, kept⟩ := List.mem_filter.1 member
  obtain ⟨notEmpty, notDot⟩ := isPart_iff.1 kept
  exact ⟨notEmpty, notDot, not_mem_of_mem_splitSlashes split⟩

theorem IsProper.join {path other : Path}
    (first : path.IsProper) (second : other.IsProper) :
    (path.join other).IsProper := by
  intro part member
  rw [Path.join] at member
  split at member
  · rcases List.mem_append.1 member with left | right
    · exact first part left
    · exact second part right
  · exact second part member

/-- A path from the root that is written and read again is the same path. -/
theorem ofSpelling_spelling_ofLocation {location : List Spelling}
    (proper : (ofLocation location).IsProper) :
    ofSpelling (ofLocation location).spelling = ofLocation location := by
  cases location with
  | nil => rfl
  | cons part parts =>
      have written :
          (ofLocation (part :: parts)).spelling =
            .char '/' :: List.intercalate "/" (part :: parts) := by
        rw [spelling, if_neg (by simp [ofLocation])]
        show Spelling.ofText "/" ++ List.intercalate "/" (part :: parts) = _
        rfl
      have noSlash : ∀ other ∈ part :: parts, .char '/' ∉ other :=
        fun other member => (proper other member).2.2
      have kept : (part :: parts).filter isPart = part :: parts := by
        rw [List.filter_eq_self]
        intro other member
        obtain ⟨notEmpty, notDot, _⟩ := proper other member
        exact isPart_iff.2 ⟨notEmpty, notDot⟩
      have split :
          splitSlashes (.char '/' :: List.intercalate "/" (part :: parts)) =
            [] :: part :: parts := by
        rw [splitSlashes, splitSlashes_intercalate noSlash]
        rfl
      have sameAnchor :=
        anchorOf_slash_intercalate (proper part List.mem_cons_self) parts
      rw [written, ofSpelling, split, sameAnchor,
        List.filter_cons_of_neg (by decide), kept]
      rfl

theorem isName_of_mem_foldl_stepLexically
    {parts location : List Spelling} {name : Spelling}
    (areParts : ∀ part ∈ parts, IsPart part)
    (areNames : ∀ other ∈ location, IsName other)
    (member : name ∈ parts.foldl stepLexically location) :
    IsName name := by
  induction parts generalizing location with
  | nil => exact areNames name member
  | cons part rest induction =>
      rw [List.foldl_cons] at member
      have restAreParts :=
        fun other inRest => areParts other (List.mem_cons_of_mem _ inRest)
      refine induction restAreParts ?_ member
      intro other inStep
      rw [stepLexically] at inStep
      split_ifs at inStep with isUp
      · exact areNames other (List.dropLast_subset _ inStep)
      · rcases List.mem_append.1 inStep with inLocation | isLast
        · exact areNames other inLocation
        · obtain rfl := List.mem_singleton.1 isLast
          exact ⟨areParts other List.mem_cons_self, isUp⟩

/-- The place that a path denotes is reached by names alone. -/
theorem isName_of_mem_location
    {directory : List Spelling} {path : Path} {name : Spelling}
    (areNames : ∀ other ∈ directory, IsName other) (proper : path.IsProper)
    (member : name ∈ path.location directory) :
    IsName name := by
  rw [location] at member
  refine isName_of_mem_foldl_stepLexically proper ?_ member
  split
  · exact areNames
  · simp

/-- Names lead down: nothing is taken away on the way. -/
theorem foldl_stepLexically_of_names
    {names : List Spelling} (noUp : ∀ name ∈ names, name ≠ "..")
    (location : List Spelling) :
    names.foldl stepLexically location = location ++ names := by
  induction names generalizing location with
  | nil => simp
  | cons name rest induction =>
      have isDown := noUp name List.mem_cons_self
      have restNoUp := fun other member =>
        noUp other (List.mem_cons_of_mem name member)
      rw [List.foldl_cons, stepLexically, if_neg isDown,
        induction restNoUp, List.append_assoc, List.singleton_append]

/-- A path from the root that consists of names denotes the place they lead to. -/
theorem location_ofLocation
    {names : List Spelling} (noUp : ∀ name ∈ names, name ≠ "..")
    (directory : List Spelling) :
    (ofLocation names).location directory = names :=
  foldl_stepLexically_of_names noUp []

end Path

end NativeDeps.Files
