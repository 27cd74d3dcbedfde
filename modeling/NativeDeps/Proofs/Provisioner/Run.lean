import NativeDeps.Proofs.Session.Continuation
import NativeDeps.Provisioner

/-!
# Running a command

A command that is run for good starts one process, with the words of the command and in
the directory that was asked for, and the next outcome decides how it counts.  In a dry
run nothing is started, and the command counts as one that ended well.
-/

namespace NativeDeps

/--
How a process counts, by its outcome: it ended well with the status zero only, any
other status and a missing executable are failures of the build orchestrator, and
whatever else stopped it is passed on.
-/
inductive Outcome.Counts (executable : Value) :
    Outcome → Except Failure Completion → Prop
  | success (output errors : Option String) :
      Counts executable (.exited (some 0) output errors)
        (.ok ⟨0, output, errors⟩)
  | failure {status : Option Int} (notZero : status ≠ some 0)
      (output errors : Option String) (message : String) :
      Counts executable (.exited status output errors)
        (.error
          (.provisioning
            ⟨message, status, output.getD "", errors.getD ""⟩))
  | missing (message : String) :
      Counts executable .notFound
        (.error (.provisioning ⟨message, none, "", ""⟩))
  | denied :
      Counts executable .denied
        (.error (.notStarted (Provisioner.shownExecutable executable)))
  | interrupted : Counts executable .interrupted (.error .interrupted)

namespace Provisioner

open Work

variable {command : List Value} {executable : Value} {line : Spelling}

/-- What telling leaves alone, is left alone by what is done about an outcome. -/
theorem keeps_settle_of_tell {γ : Type} {view : Session → γ}
    (tells : ∀ notice, Keeps view (Work.tell notice))
    (command : List Value) (capturesOutput : Bool) (outcome : Outcome) :
    Keeps view (settle command capturesOutput outcome) := by
  cases outcome with
  | notFound => exact .bind (.ofExcept _) fun _ => .throw _
  | denied => exact .bind (.ofExcept _) fun _ => .throw _
  | interrupted => exact .throw _
  | exited status output errors =>
      show Keeps _ (if status = some 0 then _ else _)
      apply Keeps.ite
      · exact .ite (.bind (tells _) fun _ => .pure _) (.pure _)
      · exact
          .bind (.ofExcept _) fun _ =>
            .bind (tells _) fun _ => .bind (.ofExcept _) fun _ => .throw _

/-- What telling and starting leave alone, is left alone by running a command. -/
theorem keeps_run_of {γ : Type} {view : Session → γ}
    (tells : ∀ notice, Keeps view (Work.tell notice))
    (calls : ∀ call, Keeps view (Work.call call))
    (provisioner : Provisioner) (command : List Value)
    (directory : Option Files.Path) (capturesOutput : Bool) :
    Keeps view (provisioner.run command directory capturesOutput) := by
  rw [run]
  refine .bind (.ofExcept _) fun line => ?_
  refine .bind (tells _) fun _ => .bind (tells _) fun _ => ?_
  apply Keeps.ite
  · exact .bind (tells _) fun _ => .pure _
  · exact
      .bind (calls _) fun outcome =>
        keeps_settle_of_tell tells command capturesOutput outcome

theorem keeps_settle
    (command : List Value) (capturesOutput : Bool) (outcome : Outcome) :
    Keeps Session.surroundings (settle command capturesOutput outcome) :=
  keeps_settle_of_tell .tell command capturesOutput outcome

/-- A command that can be told of is settled as its outcome counts. -/
theorem counts_settle
    (told : lineOf command = .ok line)
    (starts : executableOf command = .ok executable)
    (capturesOutput : Bool) (outcome : Outcome) (session : Session) :
    outcome.Counts executable
      ((settle command capturesOutput outcome).perform session).1 := by
  cases outcome with
  | notFound =>
      simp only [settle, starts]
      exact .missing _
  | denied =>
      simp only [settle, starts]
      exact .denied
  | interrupted => exact .interrupted
  | exited status output errors =>
      by_cases isZero : status = some 0
      · subst isZero
        have succeeded :
            ((settle command capturesOutput
                (.exited (some 0) output errors)).perform session).1 =
              .ok ⟨0, output, errors⟩ := by
          show Prod.fst (perform (if capturesOutput && _ then _ else _) _) = _
          split <;> rfl
        rw [succeeded]
        exact .success output errors
      · have failed :
            ∃ message,
              ((settle command capturesOutput
                  (.exited status output errors)).perform session).1 =
                .error
                  (.provisioning
                    ⟨message, status, output.getD "", errors.getD ""⟩) := by
          show
            ∃ message,
              Prod.fst (perform (if status = some 0 then _ else _) _) = _
          rw [if_neg isZero, told, starts]
          exact ⟨_, rfl⟩
        obtain ⟨message, failed⟩ := failed
        rw [failed]
        exact .failure isZero output errors message

variable {provisioner : Provisioner}

/-- In a dry run a command that can be told of ends well, and nothing is started. -/
theorem perform_run_of_isDryRun
    (isDry : provisioner.isDryRun = true) (told : lineOf command = .ok line)
    (directory : Option Files.Path) (capturesOutput : Bool)
    (session : Session) :
    ((provisioner.run command directory capturesOutput).perform session).1 =
      .ok ⟨0, some "", some ""⟩ := by
  simp only [run, told, isDry]
  rfl

theorem keeps_run_of_isDryRun
    (isDry : provisioner.isDryRun = true) (command : List Value)
    (directory : Option Files.Path) (capturesOutput : Bool) :
    Keeps Session.surroundings
      (provisioner.run command directory capturesOutput) := by
  rw [run]
  refine .bind (.ofExcept _) fun line => ?_
  refine .bind (.tell _) fun _ => .bind (.tell _) fun _ => ?_
  rw [if_pos isDry]
  exact .bind (.tell _) fun _ => .pure _

/-- A command that is run for good is told of, called, and settled. -/
theorem perform_run
    (isReal : provisioner.isDryRun = false)
    (told : lineOf command = .ok line)
    (directory : Option Files.Path) (capturesOutput : Bool)
    (session : Session) :
    ∃ before,
      before.surroundings = session.surroundings ∧
        (provisioner.run command directory capturesOutput).perform session =
          (settle command capturesOutput
            (session.outcomes.headD .quiet)).perform
              ((Work.call
                ⟨command, directory.getD provisioner.directory,
                  capturesOutput⟩).perform before).2 := by
  let place := directory.getD provisioner.directory
  let before :=
    (session.add (.notice (.running line))).add (.notice (.runningIn place))
  have sameSurroundings : before.surroundings = session.surroundings :=
    (Session.surroundings_add _ rfl).trans (Session.surroundings_add _ rfl)
  refine ⟨before, sameSurroundings, ?_⟩
  rw [run, told]
  show
    (if provisioner.isDryRun then _ else
      Work.call _ >>= settle command capturesOutput : Work _).perform before = _
  rw [isReal, if_neg Bool.false_ne_true,
    perform_bind_of_ok (perform_call _ before)]
  rw [perform_call]
  rfl

/-- A command that is run for good, and can be told of, starts one process. -/
theorem continues_run_of_not_isDryRun
    (isReal : provisioner.isDryRun = false)
    (told : lineOf command = .ok line)
    (directory : Option Files.Path) (capturesOutput : Bool)
    (session : Session) :
    session.Continues
      [⟨⟨command, directory.getD provisioner.directory, capturesOutput⟩,
        session.files⟩]
      ((provisioner.run command directory capturesOutput).perform
        session).2 := by
  obtain ⟨before, same, performs⟩ :=
    perform_run isReal told directory capturesOutput session
  have sameFiles : before.files = session.files := congrArg Prod.fst same
  have called :=
    continues_call
      ⟨command, directory.getD provisioner.directory, capturesOutput⟩ before
  rw [performs, ← sameFiles]
  exact
    ((Session.Continues.of_surroundings_eq same).trans called).trans
      (.of_surroundings_eq (keeps_settle _ _ _ _))

/-- The next outcome decides the result of a command that is run for good. -/
theorem counts_run
    (isReal : provisioner.isDryRun = false)
    (told : lineOf command = .ok line)
    (starts : executableOf command = .ok executable)
    (directory : Option Files.Path) (capturesOutput : Bool)
    (session : Session) :
    (session.outcomes.headD .quiet).Counts executable
      ((provisioner.run command directory capturesOutput).perform
        session).1 := by
  obtain ⟨before, _, performs⟩ :=
    perform_run isReal told directory capturesOutput session
  rw [performs]
  exact counts_settle told starts _ _ _

theorem continues_run
    (provisioner : Provisioner) (command : List Value)
    (directory : Option Files.Path) (capturesOutput : Bool) :
    Continues (provisioner.run command directory capturesOutput) := by
  cases isDry : provisioner.isDryRun with
  | true =>
      exact
        (keeps_run_of_isDryRun isDry _ _ _).processes.continues
  | false =>
      intro session
      cases told : lineOf command with
      | error failure =>
          refine ⟨[], .of_surroundings_eq ?_⟩
          rw [run, told]
          rfl
      | ok line =>
          exact ⟨_, continues_run_of_not_isDryRun isDry told _ _ session⟩

end Provisioner

end NativeDeps
