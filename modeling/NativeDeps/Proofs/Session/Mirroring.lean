import NativeDeps.Proofs.Session.Printing

/-!
# Work that mirrors other work

Two pieces of work mirror each other if nobody who sees the files and standard output can
tell them apart: they end alike, with related values or with the same failure, and leave
the same files and the same standard output behind.  What they tell and what they print
on standard error may differ.

The relation is carried from step to step, so it holds of two runs if it holds of what
they do one after the other.
-/

namespace NativeDeps

/-- What of a session can be seen without listening to what is told. -/
def Session.visible (session : Session) : Files.Tree × String :=
  (session.files, session.printed)

theorem Session.visible_add (session : Session) (event : Event) :
    (session.add event).visible =
      (session.files, session.printed ++ event.outputText) := by
  rw [visible, printed_add, add_files]

namespace Work

variable {α β γ δ : Type}

/-- What prints nothing on standard output cannot be seen. -/
theorem Keeps.record_visible {event : Event} (isSilent : event.outputText = "") :
    Keeps Session.visible (Work.record event) := by
  intro session
  rw [perform_record, Session.visible_add, isSilent, String.append_empty]
  rfl

theorem Keeps.tell_visible (notice : Notice) :
    Keeps Session.visible (Work.tell notice) :=
  record_visible rfl

theorem Keeps.printError_visible (text : String) :
    Keeps Session.visible (Work.printError text) :=
  record_visible rfl

/-- Two pieces of work end alike: with related values, or with the same failure. -/
inductive EndAlike (relation : α → β → Prop) :
    Except Failure α → Except Failure β → Prop
  | ok {value : α} {other : β} (related : relation value other) :
      EndAlike relation (.ok value) (.ok other)
  | error (failure : Failure) : EndAlike relation (.error failure) (.error failure)

theorem EndAlike.refl (result : Except Failure α) : EndAlike Eq result result := by
  cases result with
  | error failure => exact .error failure
  | ok value => exact .ok rfl

theorem EndAlike.eq {result other : Except Failure α}
    (alike : EndAlike Eq result other) : result = other := by
  cases alike with
  | error failure => rfl
  | ok same => rw [same]

/-- In sessions that look alike two pieces of work end alike, and leave them looking alike. -/
def Mirrors (relation : α → β → Prop) (task : Work α) (other : Work β) : Prop :=
  ∀ session later,
    session.visible = later.visible →
      EndAlike relation (task.perform session).1 (other.perform later).1 ∧
        (task.perform session).2.visible = (other.perform later).2.visible

namespace Mirrors

variable {relation : α → β → Prop} {outcome : γ → δ → Prop}

theorem pure {value : α} {other : β} (related : relation value other) :
    Mirrors relation (Pure.pure value) (Pure.pure other) :=
  fun _ _ same => ⟨.ok related, same⟩

theorem ofExcept (result : Except Failure α) :
    Mirrors Eq (Work.ofExcept result) (Work.ofExcept result) :=
  fun _ _ same => ⟨.refl result, same⟩

theorem throw (failure : Failure) :
    Mirrors relation (MonadExcept.throw failure : Work α)
      (MonadExcept.throw failure : Work β) :=
  fun _ _ same => ⟨.error failure, same⟩

theorem files : Mirrors Eq Work.files Work.files :=
  fun _ _ same => ⟨.ok (congrArg Prod.fst same), same⟩

theorem print (text : String) : Mirrors Eq (Work.print text) (Work.print text) := by
  intro session later same
  simp only [Session.visible, Prod.mk.injEq] at same
  refine ⟨.ok rfl, ?_⟩
  show (session.add _).visible = (later.add _).visible
  rw [Session.visible_add, Session.visible_add, same.1, same.2]

theorem bind
    {task : Work α} {other : Work β} {next : α → Work γ}
    {otherNext : β → Work δ} (first : Mirrors relation task other)
    (rest :
      ∀ value otherValue,
        relation value otherValue →
          Mirrors outcome (next value) (otherNext otherValue)) :
    Mirrors outcome (task >>= next) (other >>= otherNext) := by
  intro session later same
  obtain ⟨alike, reached⟩ := first session later same
  rw [perform_bind, perform_bind]
  rcases performed : task.perform session with ⟨result, after⟩
  rcases otherPerformed : other.perform later with ⟨otherResult, otherAfter⟩
  rw [performed, otherPerformed] at alike reached
  cases alike with
  | error failure => exact ⟨.error failure, reached⟩
  | ok related => exact rest _ _ related after otherAfter reached

/-- A step that gives both the same value, and then what each makes of it. -/
theorem bind_eq
    {task other : Work α} {next : α → Work γ} {otherNext : α → Work δ}
    (first : Mirrors Eq task other)
    (rest : ∀ value, Mirrors outcome (next value) (otherNext value)) :
    Mirrors outcome (task >>= next) (other >>= otherNext) := by
  refine first.bind ?_
  rintro value _ rfl
  exact rest value

theorem ite {condition : Prop} [Decidable condition]
    {task first : Work α} {other second : Work β}
    (holds : Mirrors relation task other)
    (fails : Mirrors relation first second) :
    Mirrors relation (if condition then task else first)
      (if condition then other else second) := by
  split
  · exact holds
  · exact fails

theorem printText (text : Spelling) :
    Mirrors Eq (Work.printText text) (Work.printText text) := by
  unfold Work.printText
  split
  · exact print _
  · exact throw _

theorem printLines (lines : List Spelling) :
    Mirrors Eq (Work.printLines lines) (Work.printLines lines) :=
  .bind_eq (print _) fun _ => .ite (throw _) (pure rfl)

/-- Work that shows nothing mirrors other work that shows nothing and ends alike. -/
theorem of_keeps
    {task : Work α} {other : Work β} (keeps : Keeps Session.visible task)
    (otherKeeps : Keeps Session.visible other)
    (alike :
      ∀ session later,
        EndAlike relation (task.perform session).1 (other.perform later).1) :
    Mirrors relation task other := by
  intro session later same
  refine ⟨alike session later, ?_⟩
  exact (keeps session).trans (same.trans (otherKeeps later).symm)

/-- Work whose failures are caught goes on alike. -/
theorem attempt
    {task : Work α} {other : Work β} (mirrors : Mirrors relation task other) :
    Mirrors (EndAlike relation) task.attempt other.attempt := by
  intro session later same
  obtain ⟨alike, reached⟩ := mirrors session later same
  exact ⟨.ok alike, reached⟩

theorem attempt_eq {task other : Work α} (mirrors : Mirrors Eq task other) :
    Mirrors Eq task.attempt other.attempt := by
  intro session later same
  obtain ⟨alike, reached⟩ := mirrors session later same
  exact ⟨.ok alike.eq, reached⟩

theorem tell (notice other : Notice) :
    Mirrors Eq (Work.tell notice) (Work.tell other) :=
  .of_keeps (.tell_visible _) (.tell_visible _) fun _ _ => .ok rfl

theorem printError (text other : String) :
    Mirrors Eq (Work.printError text) (Work.printError other) :=
  .of_keeps (.printError_visible _) (.printError_visible _) fun _ _ => .ok rfl

theorem symm {task other : Work α} (mirrors : Mirrors Eq task other) :
    Mirrors Eq other task := by
  intro session later same
  obtain ⟨alike, reached⟩ := mirrors later session same.symm
  rw [alike.eq]
  exact ⟨.refl _, reached.symm⟩

theorem trans {task other third : Work α} (first : Mirrors Eq task other)
    (second : Mirrors Eq other third) : Mirrors Eq task third := by
  intro session later same
  obtain ⟨alike, reached⟩ := first session session rfl
  obtain ⟨further, left⟩ := second session later same
  rw [alike.eq, further.eq]
  exact ⟨.refl _, reached.trans left⟩

end Mirrors

end Work

end NativeDeps
