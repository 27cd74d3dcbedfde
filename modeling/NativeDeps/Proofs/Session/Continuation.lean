import Mathlib.Data.List.Basic
import NativeDeps.Proofs.Session.Work

/-!
# Sessions that go on

A piece of work may start processes.  Each start takes one outcome from the front of
those that are to come, so the outcomes that are left tell how many processes were
started.  This holds for every piece of work and hence for any number of them.
-/

namespace NativeDeps

namespace Session

/--
A session goes on to another one by starting processes: each takes one outcome, and
relative paths are still read in the same directory.
-/
structure Continues (before : Session) (own : List Start)
    (after : Session) : Prop where
  directory : after.files.directory = before.files.directory
  starts : after.starts = before.starts ++ own
  outcomes : after.outcomes = before.outcomes.drop own.length

namespace Continues

variable {before middle after : Session} {own others : List Start}

theorem of_processes_eq (same : after.processes = before.processes) :
    before.Continues [] after := by
  simp only [processes, Prod.mk.injEq] at same
  rcases same with ⟨directory, outcomes, starts⟩
  exact
    ⟨directory, by rw [starts, List.append_nil], by rw [outcomes]; rfl⟩

theorem of_surroundings_eq
    (same : after.surroundings = before.surroundings) :
    before.Continues [] after :=
  of_processes_eq (processes_eq_of_surroundings_eq same)

theorem trans (first : before.Continues own middle)
    (second : middle.Continues others after) :
    before.Continues (own ++ others) after where
  directory := second.directory.trans first.directory
  starts := by rw [second.starts, first.starts, List.append_assoc]
  outcomes := by
    rw [second.outcomes, first.outcomes, List.drop_drop,
      List.length_append]

/-- What was started between two sessions is determined by them. -/
theorem own_eq (first : before.Continues own after)
    (second : before.Continues others after) : own = others :=
  List.append_cancel_left (first.starts.symm.trans second.starts)

end Continues

end Session

namespace Work

variable {α β : Type}

/-- The session after a piece of work goes on from the one before it. -/
def Continues (task : Work α) : Prop :=
  ∀ session : Session,
    ∃ own, session.Continues own (task.perform session).2

theorem Keeps.continues
    {task : Work α} (keeps : Keeps Session.processes task) :
    Continues task :=
  fun session => ⟨[], .of_processes_eq (keeps session)⟩

theorem Continues.bind
    {task : Work α} {next : α → Work β} (first : Continues task)
    (rest : ∀ value, Continues (next value)) :
    Continues (task >>= next) := by
  intro session
  obtain ⟨own, continues⟩ := first session
  rw [perform_bind]
  rcases performed : task.perform session with ⟨failure | value, after⟩
  · rw [performed] at continues
    exact ⟨own, continues⟩
  · rw [performed] at continues
    obtain ⟨others, continuesFurther⟩ := rest value after
    exact ⟨own ++ others, continues.trans continuesFurther⟩

/-- What is made of the value in the end starts nothing. -/
theorem Continues.change
    {task : Work α} (continues : Continues task) (change : α → β) :
    Continues (task >>= fun value => pure (change value)) :=
  continues.bind fun _ => (Keeps.pure _).continues

/-- A started process is noted with the files of its moment, and takes an outcome. -/
theorem continues_call (call : Call) (session : Session) :
    session.Continues [⟨call, session.files⟩]
      ((Work.call call).perform session).2 := by
  rw [perform_call]
  refine ⟨rfl, ?_, ?_⟩
  · exact session.starts_add (.call call)
  · exact List.drop_one.symm

end Work

end NativeDeps
