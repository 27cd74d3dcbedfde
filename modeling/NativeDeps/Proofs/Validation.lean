import Mathlib.Data.List.Basic
import NativeDeps.Proofs.Text.Spelling
import NativeDeps.Validation

/-!
# Readers that find everything

A reader that is asked for a value either gives one or reports problems.  What counts as
a problem is said of the places of a value, without the reader, and a reader finds
everything if its report holds exactly these problems, in the order of the declared
fields and of the elements within a field.  This carries over from the readers of single
values to those of lists and of objects.
-/

namespace NativeDeps

/-- Where a step stands among its neighbours, by the fields in their declared order. -/
def Step.rank (fields : List String) : Step → Nat
  | .field name => fields.idxOf name
  | .element index => index

namespace Problem

/-- A problem comes before another one if its place does. -/
def Before (fields : List String) (first second : Problem) : Prop :=
  first.location.map (Step.rank fields) <
    second.location.map (Step.rank fields)

/-- The problem of what stands at a place of a value, as one of the value. -/
def within (place : List Step) (problem : Problem) : Problem :=
  { problem with location := place ++ problem.location }

variable {fields : List String} {step other : Step} {first second : Problem}

theorem Before.within (before : first.Before fields second) :
    (first.within [step]).Before fields (second.within [step]) :=
  List.cons_lt_cons_iff.2 (.inr ⟨rfl, before⟩)

/-- Problems in different places come in the order of these places. -/
theorem before_of_rank_lt
    (less : step.rank fields < other.rank fields)
    (firstThere : first.location.head? = some step)
    (secondThere : second.location.head? = some other) :
    first.Before fields second := by
  obtain ⟨firstRest, firstPlace⟩ := List.head?_eq_some_iff.1 firstThere
  obtain ⟨secondRest, secondPlace⟩ := List.head?_eq_some_iff.1 secondThere
  rw [Before, firstPlace, secondPlace]
  exact List.cons_lt_cons_iff.2 (.inl less)

end Problem

namespace Checked

variable {α β : Type} {fields : List String}

/--
What a reader finds: a value that is meant if nothing is wrong, and otherwise all that
is wrong, in order.
-/
inductive Finds (fields : List String) (wrong : Problem → Prop)
    (means : α → Prop) : Checked α → Prop
  | value {value : α} (meant : means value)
      (nothing : ∀ problem, ¬ wrong problem) :
      Finds fields wrong means (.ok value)
  | problems {problems : List Problem} (isSome : problems ≠ [])
      (exact : ∀ problem, problem ∈ problems ↔ wrong problem)
      (ordered : problems.Pairwise (Problem.Before fields)) :
      Finds fields wrong means (.error problems)

namespace Finds

variable {wrong otherWrong : Problem → Prop} {means : α → Prop}
  {otherMeans : β → Prop} {result : Checked α} {other : Checked β}

/-- Only what is wrong and what is meant matters, not how it is said. -/
theorem congr {sameMeans : α → Prop}
    (finds : Finds fields wrong means result)
    (sameWrong : ∀ problem, wrong problem ↔ otherWrong problem)
    (implied : ∀ value, means value → sameMeans value) :
    Finds fields otherWrong sameMeans result := by
  cases finds with
  | value meant nothing =>
      exact
        .value (implied _ meant) fun problem =>
          (sameWrong problem).not.1 (nothing problem)
  | problems isSome exact ordered =>
      exact
        .problems isSome
          (fun problem => (exact problem).trans (sameWrong problem)) ordered

theorem map (finds : Finds fields wrong means result) (change : α → β)
    (implied : ∀ value, means value → otherMeans (change value)) :
    Finds fields wrong otherMeans (result.map change) := by
  cases finds with
  | value meant nothing => exact .value (implied _ meant) nothing
  | problems isSome exact ordered => exact .problems isSome exact ordered

/-- A single problem is reported exactly when nothing else is wrong. -/
theorem single {only : Problem}
    (exact : ∀ problem, wrong problem ↔ problem = only) :
    Finds fields wrong means (.error [only]) := by
  refine .problems (List.cons_ne_nil _ _) ?_ (List.pairwise_singleton _ _)
  intro problem
  rw [List.mem_singleton, exact]

/-- What is found inside a value is found in the value, at the same place of it. -/
theorem under (finds : Finds fields wrong means result) (step : Step) :
    Finds fields
      (fun problem => ∃ inner, wrong inner ∧ problem = inner.within [step])
      means (Checked.under step result) := by
  cases finds with
  | value meant nothing =>
      refine .value meant ?_
      rintro problem ⟨inner, isWrong, _⟩
      exact nothing inner isWrong
  | @problems problems isSome exact ordered =>
      refine .problems (List.map_eq_nil_iff.not.2 isSome) ?_ ?_
      · intro problem
        rw [List.mem_map]
        constructor
        · rintro ⟨inner, member, rfl⟩
          exact ⟨inner, (exact inner).1 member, rfl⟩
        · rintro ⟨inner, isWrong, rfl⟩
          exact ⟨inner, (exact inner).2 isWrong, rfl⟩
      · exact List.pairwise_map.2 (ordered.imp Problem.Before.within)

/-- Two readers find what each of them finds, the first one first. -/
theorem both (finds : Finds fields wrong means result)
    (otherFinds : Finds fields otherWrong otherMeans other)
    (ordered :
      ∀ first second,
        wrong first → otherWrong second → first.Before fields second) :
    Finds fields (fun problem => wrong problem ∨ otherWrong problem)
      (fun pair => means pair.1 ∧ otherMeans pair.2) (result.both other) := by
  cases finds with
  | value meant nothing =>
      cases otherFinds with
      | value otherMeant otherNothing =>
          exact
            .value ⟨meant, otherMeant⟩ fun problem =>
              not_or.2 ⟨nothing problem, otherNothing problem⟩
      | problems isSome exact otherOrdered =>
          refine .problems isSome ?_ otherOrdered
          intro problem
          rw [exact, or_iff_right (nothing problem)]
  | problems isSome exact ownOrdered =>
      cases otherFinds with
      | value otherMeant otherNothing =>
          refine .problems isSome ?_ ownOrdered
          intro problem
          rw [exact, or_iff_left (otherNothing problem)]
      | problems otherSome otherExact otherOrdered =>
          refine .problems (List.append_ne_nil_of_left_ne_nil isSome _) ?_ ?_
          · intro problem
            rw [List.mem_append, exact, otherExact]
          · rw [List.pairwise_append]
            refine ⟨ownOrdered, otherOrdered, ?_⟩
            intro first firstMember second secondMember
            exact
              ordered first second ((exact first).1 firstMember)
                ((otherExact second).1 secondMember)

end Finds

end Checked

namespace Value

/-- The text that a value is, or that its bytes are the encoding of, as it is spelt. -/
def spelt? : Value → Option Spelling
  | .text content => some content
  | .halves spelling => some spelling
  | .bytes content =>
      (String.fromUTF8? ⟨content.toArray⟩).map Spelling.ofText
  | _ => none

/-- The complaint about a value that is no text. -/
def textComplaint : Value → Complaint
  | .bytes _ => .notUnicode
  | _ => .notText

/-- The fields of a value that is an object. -/
def fields? (value : Value) : Option (List (Value × Value)) :=
  match value.opened with
  | .mapping entries => some entries
  | _ => none

/-- The texts of a list; a value that is none has no texts. -/
def spellings (value : Value) : List Spelling :=
  (value.elements?.getD []).filterMap spelt?

/-- What stands one step inside a value. -/
def inside? (value : Value) : Step → Option Value
  | .field name => value.fields?.bind (field? name)
  | .element index => value.elements?.bind fun items => items[index]?

/-- What stands at a place of a value. -/
def at? (value : Value) : List Step → Option Value
  | [] => some value
  | step :: rest => (value.inside? step).bind fun found => found.at? rest

theorem at?_append (value : Value) (place rest : List Step) :
    value.at? (place ++ rest) =
      (value.at? place).bind fun found => found.at? rest := by
  induction place generalizing value with
  | nil => rfl
  | cons step place induction =>
      rw [List.cons_append, at?, at?, Option.bind_assoc]
      simp only [induction]

theorem at?_singleton (value : Value) (step : Step) :
    value.at? [step] = value.inside? step :=
  Option.bind_fun_some _

theorem at?_field {value : Value} {entries : List (Value × Value)}
    (isObject : value.fields? = some entries) (name : String) :
    value.at? [.field name] = field? name entries := by
  rw [at?_singleton, inside?, isObject]
  rfl

theorem toText_eq (value : Value) :
    value.toText =
      match value.spelt? with
      | some spelling => .ok spelling
      | none => complain value.textComplaint := by
  cases value with
  | bytes content =>
      rw [toText, spelt?]
      cases String.fromUTF8? ⟨content.toArray⟩ <;> rfl
  | _ => rfl

theorem toObject_eq (model : Model) (value : Value) :
    value.toObject model =
      match value.fields? with
      | some entries => .ok entries
      | none => complain (.notObject model) := by
  rw [toObject, fields?]
  cases value.opened <;> rfl

open Checked

variable {fields : List String}

/-- What is wrong with a value that should be a text. -/
def NoText (value : Value) (problem : Problem) : Prop :=
  value.spelt? = none ∧ problem = ⟨value.textComplaint, []⟩

/--
What is wrong with a value that should be a text with something in it: it is no text, or
one with halves of characters, or the empty one.
-/
def NoFullText (value : Value) (problem : Problem) : Prop :=
  value.NoText problem ∨
    (∃ spelling,
      value.spelt? = some spelling ∧ ¬ spelling.IsWhole ∧
        problem = ⟨.notUnicode, []⟩) ∨
      value.spelt? = some ("" : Spelling) ∧ problem = ⟨.emptyText, []⟩

theorem finds_toText (fields : List String) (value : Value) :
    Finds fields value.NoText
      (fun spelling => value.spelt? = some spelling) value.toText := by
  rw [toText_eq]
  cases isText : value.spelt? with
  | some spelling =>
      refine .value rfl ?_
      rintro problem ⟨noText, _⟩
      rw [isText] at noText
      cases noText
  | none =>
      refine .single fun problem => ?_
      rw [NoText, isText, and_iff_right rfl]

theorem finds_toFullText (fields : List String) (value : Value) :
    Finds fields value.NoFullText
      (fun name => value.spelt? = some (name.1 : Spelling))
      value.toFullText := by
  rw [toFullText, toText_eq]
  cases isText : value.spelt? with
  | none =>
      refine .single fun problem => ?_
      simp [NoFullText, NoText, isText]
  | some spelling =>
      dsimp only
      cases whole : spelling.text? with
      | none =>
          have half := Spelling.text?_eq_none_iff.1 whole
          have notEmpty : spelling ≠ [] := by
            rintro rfl
            exact half (List.forall_mem_nil _)
          refine .single fun problem => ?_
          simp [NoFullText, NoText, isText, half, notEmpty]
      | some name =>
          obtain rfl := Spelling.text?_eq_some_iff.1 whole
          have isWhole := Spelling.isWhole_ofText name
          dsimp only
          split_ifs with isEmpty
          · have emptyWhole : Spelling.IsWhole [] := List.forall_mem_nil _
            refine .single fun problem => ?_
            simp [NoFullText, NoText, isText, emptyWhole, isEmpty]
          · have notEmpty := Spelling.ofText_eq_nil_iff.not.2 isEmpty
            refine .value rfl fun problem => ?_
            simp [NoFullText, NoText, isText, isWhole, notEmpty]

theorem finds_toTextOrNull (fields : List String) (value : Value) :
    Finds fields
      (fun problem => value ≠ .null ∧ value.NoText problem)
      (fun spelling => spelling = value.spelt?) value.toTextOrNull := by
  by_cases isNull : value = .null
  · subst isNull
    exact .value rfl fun problem isWrong => isWrong.1 rfl
  · have sameReader : value.toTextOrNull = value.toText.map some := by
      cases value with
      | null => exact absurd rfl isNull
      | _ => rfl
    have finds :
        Finds fields value.NoText (fun spelling => spelling = value.spelt?)
          (value.toText.map some) :=
      (value.finds_toText fields).map some fun spelling meant => meant.symm
    rw [sameReader]
    exact
      finds.congr (fun problem => (and_iff_right isNull).symm)
        fun _ meant => meant

section

variable {α : Type} {read : Value → Checked α}
  {wrong : Value → Problem → Prop} {means : Value → α → Prop}

/-- What is wrong with what stands at a place of a value, if anything stands there. -/
def WrongAt (wrong : Value → Problem → Prop) (place : List Step)
    (value : Value) (problem : Problem) : Prop :=
  ∃ found inner,
    value.at? place = some found ∧
      wrong found inner ∧ problem = inner.within place

theorem head?_of_wrongAt {step : Step} {value : Value} {problem : Problem}
    (isWrong : WrongAt wrong [step] value problem) :
    problem.location.head? = some step := by
  obtain ⟨_, _, _, _, rfl⟩ := isWrong
  rfl

/-- A place inside a place is a place. -/
theorem wrongAt_wrongAt_iff
    (place rest : List Step) (value : Value) (problem : Problem) :
    WrongAt (WrongAt wrong rest) place value problem ↔
      WrongAt wrong (place ++ rest) value problem := by
  constructor
  · rintro ⟨found, _, there, ⟨inner, problem, thereInside, isWrong, rfl⟩, rfl⟩
    refine ⟨inner, problem, ?_, isWrong, ?_⟩
    · rw [at?_append, there]
      exact thereInside
    · rw [Problem.within, Problem.within, Problem.within, List.append_assoc]
  · rintro ⟨inner, problem, there, isWrong, rfl⟩
    rw [at?_append] at there
    obtain ⟨found, thereFirst, thereInside⟩ := Option.bind_eq_some_iff.1 there
    refine
      ⟨found, problem.within rest, thereFirst,
        ⟨inner, problem, thereInside, isWrong, rfl⟩, ?_⟩
    rw [Problem.within, Problem.within, Problem.within, List.append_assoc]

/-- A reader of elements finds what its reader finds in each of them. -/
theorem finds_readElements
    (finds : ∀ item, Finds fields (wrong item) (means item) (read item))
    (index : Nat) (items : List Value) :
    Finds fields
      (fun problem =>
        ∃ offset found inner,
          items[offset]? = some found ∧
            wrong found inner ∧
              problem = inner.within [.element (index + offset)])
      (List.Forall₂ means items) (readElements read index items) := by
  induction items generalizing index with
  | nil => exact .value .nil fun problem => by simp
  | cons item rest induction =>
      have first := (finds item).under (.element index)
      have together := first.both (induction (index + 1)) ?ordered
      case ordered =>
        rintro _ _ ⟨inner, _, rfl⟩ ⟨offset, found, other, _, _, rfl⟩
        refine Problem.before_of_rank_lt ?_ rfl rfl
        show index < index + 1 + offset
        omega
      refine
        (together.map (fun pair => pair.1 :: pair.2) fun pair meant =>
          .cons meant.1 meant.2).congr (fun problem => ?_) fun _ meant => meant
      constructor
      · rintro (⟨inner, isWrong, rfl⟩ |
          ⟨offset, found, inner, there, isWrong, rfl⟩)
        · exact ⟨0, item, inner, rfl, isWrong, rfl⟩
        · refine ⟨offset + 1, found, inner, there, isWrong, ?_⟩
          rw [Nat.add_right_comm, Nat.add_assoc]
      · rintro ⟨offset, found, inner, there, isWrong, rfl⟩
        cases offset with
        | zero =>
            obtain rfl := Option.some.inj there
            exact .inl ⟨inner, isWrong, rfl⟩
        | succ offset =>
            refine .inr ⟨offset, found, inner, there, isWrong, ?_⟩
            rw [Nat.add_right_comm, Nat.add_assoc]

/-- A reader of lists finds a value that is none, or what is wrong in its elements. -/
theorem finds_toListOf
    (finds : ∀ item, Finds fields (wrong item) (means item) (read item))
    (value : Value) :
    Finds fields
      (fun problem =>
        value.elements? = none ∧ problem = ⟨.notList, []⟩ ∨
          ∃ index, WrongAt wrong [.element index] value problem)
      (fun found =>
        ∃ items, value.elements? = some items ∧ List.Forall₂ means items found)
      (value.toListOf read) := by
  rw [toListOf]
  cases isList : value.elements? with
  | none =>
      refine .single fun problem => ?_
      simp [WrongAt, at?_singleton, inside?, isList]
  | some items =>
      refine (finds_readElements finds 0 items).congr (fun problem => ?_) ?_
      · simp [WrongAt, at?_singleton, inside?, isList]
      · intro found meant
        exact ⟨items, rfl, meant⟩

/-- A required field is missing, or something is wrong in it. -/
theorem finds_required
    (finds : ∀ item, Finds fields (wrong item) (means item) (read item))
    {value : Value} {entries : List (Value × Value)}
    (isObject : value.fields? = some entries) (name : String) :
    Finds fields
      (fun problem =>
        value.at? [.field name] = none ∧
            problem = ⟨.missing, [.field name]⟩ ∨
          WrongAt wrong [.field name] value problem)
      (fun content =>
        ∃ found, value.at? [.field name] = some found ∧ means found content)
      (required name read entries) := by
  rw [required, ← at?_field isObject]
  cases there : value.at? [.field name] with
  | none =>
      refine .single fun problem => ?_
      simp [WrongAt, there]
  | some found =>
      refine ((finds found).under (.field name)).congr (fun problem => ?_) ?_
      · simp [WrongAt, there]
      · intro content meant
        exact ⟨found, rfl, meant⟩

/-- An optional field may be left out, but nothing may be wrong in it. -/
theorem finds_optional
    (finds : ∀ item, Finds fields (wrong item) (means item) (read item))
    {value : Value} {entries : List (Value × Value)}
    (isObject : value.fields? = some entries) (name : String)
    (fallback : α) :
    Finds fields (WrongAt wrong [.field name] value)
      (fun content =>
        value.at? [.field name] = none ∧ content = fallback ∨
          ∃ found,
            value.at? [.field name] = some found ∧ means found content)
      (optional name fallback read entries) := by
  rw [optional, ← at?_field isObject]
  cases there : value.at? [.field name] with
  | none =>
      refine .value (.inl ⟨rfl, rfl⟩) fun problem => ?_
      simp [WrongAt, there]
  | some found =>
      refine ((finds found).under (.field name)).congr (fun problem => ?_) ?_
      · simp [WrongAt, there]
      · intro content meant
        exact .inr ⟨found, rfl, meant⟩

end

/-- What is wrong with a value that should be a list of texts. -/
def NoTexts (value : Value) (problem : Problem) : Prop :=
  value.elements? = none ∧ problem = ⟨.notList, []⟩ ∨
    ∃ index, WrongAt NoText [.element index] value problem

theorem filterMap_spelt?_eq
    {items : List Value} {spellings : List Spelling}
    (read :
      List.Forall₂ (fun item spelling => item.spelt? = some spelling) items
        spellings) :
    items.filterMap spelt? = spellings := by
  induction read with
  | nil => rfl
  | cons isText rest induction =>
      rw [List.filterMap_cons_some isText, induction]

theorem finds_toTexts (fields : List String) (value : Value) :
    Finds fields value.NoTexts (fun spellings => spellings = value.spellings)
      value.toTexts := by
  refine
    (finds_toListOf (finds_toText fields) value).congr (fun problem => Iff.rfl) ?_
  rintro spellings ⟨items, isList, meant⟩
  rw [Value.spellings, isList]
  exact (filterMap_spelt?_eq meant).symm

end Value

end NativeDeps
