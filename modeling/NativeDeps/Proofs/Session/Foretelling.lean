import NativeDeps.Proofs.Session.Continuation

/-!
# Work that foretells other work

A piece of work foretells another one if it gives a value wherever the other one does,
and the values are related.  The sessions of the two need not have more in common than
the directory in which relative paths are read, so nothing depends on the files that
only one of them has written, or on the outcomes that only one of them has taken.

The relation is carried from step to step: a later step may use what an earlier one
gave, as long as it only uses what the relation says about it.
-/

namespace NativeDeps

/-- The directory in which the relative paths of a session are read. -/
def Session.directory (session : Session) : Files.Location :=
  session.files.directory

namespace Work

variable {α β γ δ : Type}

theorem Keeps.directory
    {task : Work α} (keeps : Keeps Session.processes task) :
    Keeps Session.directory task :=
  fun session => congrArg Prod.fst (keeps session)

theorem Continues.keepsDirectory
    {task : Work α} (continues : Continues task) :
    Keeps Session.directory task := by
  intro session
  obtain ⟨own, goesOn⟩ := continues session
  exact goesOn.directory

/-- Wherever the other piece of work gives a value, this one gives a related value. -/
def Foretells (relation : α → β → Prop) (task : Work α)
    (other : Work β) : Prop :=
  ∀ session later value after,
    session.directory = later.directory →
      other.perform later = (.ok value, after) →
        ∃ foretold before,
          task.perform session = (.ok foretold, before) ∧
            relation foretold value ∧ before.directory = after.directory

namespace Foretells

variable {relation : α → β → Prop} {outcome : γ → δ → Prop}

theorem pure {value : α} {other : β} (related : relation value other) :
    Foretells relation (Pure.pure value) (Pure.pure other) := by
  intro session later result after same performs
  cases performs
  exact ⟨value, session, rfl, related, same⟩

theorem ofExcept (result : Except Failure α) :
    Foretells Eq (Work.ofExcept result) (Work.ofExcept result) := by
  intro session later value after same performs
  cases performs
  exact ⟨value, session, rfl, rfl, same⟩

theorem tell (notice : Notice) :
    Foretells Eq (Work.tell notice) (Work.tell notice) := by
  intro session later value after same performs
  cases performs
  exact ⟨(), _, rfl, rfl, same⟩

/-- Of the files of both sessions only the directory is the same. -/
theorem files :
    Foretells (fun tree other => tree.directory = other.directory)
      Work.files Work.files := by
  intro session later value after same performs
  cases performs
  exact ⟨session.files, session, rfl, same, same⟩

theorem bind
    {task : Work α} {other : Work β} {next : α → Work γ}
    {otherNext : β → Work δ} (first : Foretells relation task other)
    (rest :
      ∀ value otherValue,
        relation value otherValue →
          Foretells outcome (next value) (otherNext otherValue)) :
    Foretells outcome (task >>= next) (other >>= otherNext) := by
  intro session later value after same performs
  rw [perform_bind] at performs
  rcases middle : other.perform later with ⟨failure | otherValue, reached⟩
  · rw [middle] at performs
    cases performs
  · rw [middle] at performs
    obtain ⟨foretold, before, succeeds, related, sameReached⟩ :=
      first session later otherValue reached same middle
    rw [perform_bind_of_ok succeeds]
    exact
      rest foretold otherValue related before reached value after sameReached
        performs

theorem ite {condition : Prop} [Decidable condition]
    {task first : Work α} {other second : Work β}
    (holds : Foretells relation task other)
    (fails : Foretells relation first second) :
    Foretells relation (if condition then task else first)
      (if condition then other else second) := by
  split
  · exact holds
  · exact fails

/-- What is made of a foretold value is foretold too. -/
theorem change
    {task other : Work α} (foretells : Foretells Eq task other)
    (change : α → β) :
    Foretells Eq (task >>= fun value => Pure.pure (change value))
      (other >>= fun value => Pure.pure (change value)) := by
  refine .bind foretells ?_
  rintro value _ rfl
  exact .pure rfl

/-- Work that stays in its directory foretells by its results alone. -/
theorem of_results
    {task : Work α} {other : Work β}
    (keeps : Keeps Session.directory task)
    (otherKeeps : Keeps Session.directory other)
    (results :
      ∀ session later value,
        (other.perform later).1 = .ok value →
          ∃ foretold,
            (task.perform session).1 = .ok foretold ∧
              relation foretold value) :
    Foretells relation task other := by
  intro session later value after same performs
  have reached := otherKeeps later
  rw [performs] at reached
  obtain ⟨foretold, succeeds, related⟩ :=
    results session later value (congrArg Prod.fst performs)
  refine ⟨foretold, _, Prod.ext succeeds rfl, related, ?_⟩
  exact (keeps session).trans (same.trans reached.symm)

/-- What is foretold of a value holds for work that starts in one session. -/
theorem perform_eq_ok
    {task other : Work α} (foretells : Foretells Eq task other)
    {session : Session} {value : α}
    (succeeds : (other.perform session).1 = .ok value) :
    (task.perform session).1 = .ok value := by
  obtain ⟨foretold, before, performs, rfl, _⟩ :=
    foretells session session value (other.perform session).2 rfl
      (Prod.ext succeeds rfl)
  rw [performs]

end Foretells

end Work

end NativeDeps
