import NativeDeps.CommandLine
import NativeDeps.Proofs.Session.Printing
import NativeDeps.Proofs.ShellOutcome

/-!
# Exits of the shell

A run of the program that asks for the shell ends with a status that the process decides:
what a process that failed printed is passed on, and its status becomes that of the
program.  Nothing else is printed on standard output.
-/

namespace NativeDeps

open Work

namespace Provisioner

variable {provisioner : Provisioner}

theorem keeps_printed_write
    (provisioner : Provisioner) (path : Files.Path) (content : Value) :
    Keeps Session.printed (provisioner.write path content) :=
  keeps_write_of .tell_printed .writeValue_printed provisioner path content

theorem keeps_printed_provideShell
    (provisioner : Provisioner) (set : DependencySet) (command : Value)
    (capturesOutput : Bool) :
    Keeps Session.printed
      (provisioner.provideShell set command capturesOutput) := by
  rw [provideShell_eq]
  refine .bind (.ofExcept _) fun content => ?_
  refine .bind (provisioner.keeps_printed_write _ content) fun _ => ?_
  refine .bind (.checkPath _) fun _ => ?_
  exact
    keeps_enterShell_of .tell_printed .call_printed provisioner set command
      capturesOutput

/-- A provision prints nothing, whatever the process prints that it starts. -/
theorem keeps_printed_provision
    (provisioner : Provisioner) (set : DependencySet) (command : Value)
    (capturesOutput : Bool) :
    Keeps Session.printed
      (provisioner.provision set command capturesOutput) := by
  cases kind : provisioner.kind with
  | nix =>
      rw [provision_of_nix kind]
      exact provisioner.keeps_printed_provideShell set command capturesOutput
  | manifest =>
      rw [provision_of_manifest kind]
      exact
        keeps_provideManifest_of .tell_printed provisioner.keeps_printed_write
          set command

/-- The shell is not entered with an executable that holds a number with too many digits. -/
theorem perform_enterShell_of_holdsLong
    {executable isPure : Value}
    (executableSet :
      provisioner.setting "executable" (.text "nix-shell") = .ok executable)
    (pureSet : provisioner.setting "pure" (.bool false) = .ok isPure)
    (isLong : executable.holdsLong = true) (set : DependencySet)
    (command : Value) (capturesOutput : Bool) (session : Session) :
    (provisioner.enterShell set command capturesOutput).perform session =
      (.error .longNumber, session) := by
  have notWritten : executable.written = .error .longNumber := by
    rw [Value.written, isLong, if_pos rfl]
  have ordered :
      provisioner.shellCommand
          (provisioner.expressionPath.resolve session.files.directory)
          command =
        .ok (shellWords executable isPure
          (provisioner.expressionPath.resolve session.files.directory)
          command) := by
    rw [shellCommand, executableSet, pureSet]
    rfl
  rw [enterShell, perform_bind_of_ok (perform_files session), ordered]
  show (Work.ofExcept executable.written >>= _ : Work _).perform session = _
  rw [notWritten]
  rfl

end Provisioner

namespace Workspace

variable {workspace : Workspace} {name command : Value} {session : Session}
  {provisioner : Provisioner} {set : DependencySet} {content : Value}

theorem keeps_printed_provision
    (workspace : Workspace) (name command : Value) (capturesOutput : Bool) :
    Keeps Session.printed
      (workspace.provision name command capturesOutput) :=
  .bind (.ofExcept _) fun provisioner =>
    .bind (workspace.keeps_resolve_of_tell .tell_printed) fun set =>
      provisioner.keeps_printed_provision set command capturesOutput

/-- With a written expression only an executable that cannot be told of is not started. -/
theorem fails_of_holdsLong
    (isReal : workspace.isDryRun = false)
    (expression :
      workspace.WritesExpression name session provisioner set content)
    {executable : Value}
    (executableSet :
      provisioner.setting "executable" (.text "nix-shell") = .ok executable)
    (isLong : executable.holdsLong = true) (command : Value)
    (capturesOutput : Bool) :
    ∃ after,
      (workspace.provision name command capturesOutput).perform session =
          (.error .longNumber, after) ∧
        session.Continues [] after := by
  rcases expression with ⟨asked, isNix, resolved, rendered, writes⟩
  have provisionerReal : provisioner.isDryRun = false :=
    (eq_of_provisioner asked).2.trans isReal
  obtain ⟨text, files, rfl, written, _⟩ :=
    Provisioner.written_of_write provisionerReal (Prod.ext writes rfl)
  obtain ⟨isPure, pureSet⟩ :=
    Provisioner.exists_setting executableSet "pure" (.bool false)
  obtain ⟨before, same, performs⟩ :=
    perform_provision asked resolved command capturesOutput session
  have sameFiles : before.files = session.files := congrArg Prod.fst same
  rw [← sameFiles] at written
  have kept := Provisioner.processes_of_written written
  rw [performs, Provisioner.provision_of_nix isNix,
    Provisioner.perform_provideShell_of_written provisionerReal rendered
      written,
    Provisioner.perform_enterShell_of_holdsLong executableSet pureSet isLong]
  exact
    ⟨_, rfl,
      (Session.Continues.of_surroundings_eq same).trans
        (.of_processes_eq kept)⟩

/-- With a written expression the shell is started otherwise, and its outcome counts. -/
theorem counts_of_writesExpression
    (isReal : workspace.isDryRun = false)
    (textual : command ≠ .null → command.IsText)
    (expression :
      workspace.WritesExpression name session provisioner set content)
    {executable : Value}
    (executableSet :
      provisioner.setting "executable" (.text "nix-shell") = .ok executable)
    (isShort : executable.holdsLong = false) (capturesOutput : Bool) :
    ∃ start completion after,
      (workspace.provision name command capturesOutput).perform session =
          (completion.map (provisioner.shellHandle set), after) ∧
        session.Continues [start] after ∧
        (session.outcomes.headD .quiet).Counts executable completion := by
  obtain ⟨text, words, line, files, enters⟩ :=
    enters_of_writesExpression isReal (Value.holdsLong_of_isText textual)
      expression executableSet isShort
  obtain ⟨other, isPure, otherSet, _, rfl⟩ :=
    Provisioner.shellCommand_eq enters.enters.ordered
  rw [executableSet] at otherSet
  obtain rfl := Except.ok.inj otherSet
  obtain ⟨completion, counts, ends⟩ :=
    counts_of_enters isReal enters rfl capturesOutput
  exact
    ⟨_, completion, _, Prod.ext ends rfl,
      continues_of_enters isReal enters capturesOutput, counts⟩

end Workspace

/--
How a run of the shell ends by the outcome of the process: which exit status it has, what
is added to standard output, and with what standard error ends.
-/
structure Outcome.Exits (outcome : Outcome) (before after : Session)
    (status : Int) : Prop where
  zero_iff :
    status = 0 ↔ ∃ output errors, outcome = .exited (some 0) output errors
  code :
    ∀ code output errors,
      code ≠ 0 → outcome = .exited (some code) output errors → status = code
  noCode :
    ∀ output errors, outcome = .exited none output errors → status = 1
  missing : outcome = .notFound → status = 1
  denied : outcome = .denied → status = 1
  interrupted : outcome = .interrupted → status = 130
  passedOn :
    ∀ code output errors,
      code ≠ some 0 →
        outcome = .exited code output errors →
          after.printed = before.printed ++ output.getD "" ∧
            ∃ message,
              ∀ console : Console,
                ∃ earlier,
                  console.errors after.history =
                    earlier ++ errors.getD "" ++
                      console.fullLine (.orchestratorFailed message)
  silent :
    (∀ code output errors,
        outcome = .exited code output errors → code = some 0) →
      after.printed = before.printed

namespace CommandLine

variable {request : Request} {detector : Detector}
  {session started after : Session} {environment : Environment}

/-- What is left to do when a request was answered, or could not be. -/
def close (isVerbose : Bool) : Except Failure Unit → Work Int
  | .ok _ => return 0
  | .error failure => report isVerbose failure

/-- When the environment is set up, the answer to the request decides. -/
theorem perform_carryOut
    (starts :
      (Environment.start (settingsOf request.choices) detector).perform
          session =
        (.ok environment, started))
    {result : Except Failure Unit}
    (answers :
      (answer request environment).perform started = (result, after)) :
    (carryOut request detector).perform session =
      (close request.choices.isVerbose result).perform after := by
  have attempted := perform_attempt
    (Environment.start (settingsOf request.choices) detector) session
  rw [starts] at attempted
  have answered := perform_attempt (answer request environment) started
  rw [answers] at answered
  rw [carryOut, perform_bind_of_ok attempted]
  dsimp only
  rw [perform_bind_of_ok answered]
  cases result <;> rfl

/-- What is left to do when the shell was provided, or could not be. -/
def conclude (isVerbose : Bool) : Except Failure Handle → Work Int
  | .ok handle => do
      Work.tell (.provisioned handle.kind.name handle.status)
      return 0
  | .error failure => report isVerbose failure

/-- When the environment is set up, the shell is a provision and what is concluded from it. -/
theorem perform_carryOut_shell
    (isShell : request.command = .shell)
    (starts :
      (Environment.start (settingsOf request.choices) detector).perform
          session =
        (.ok environment, started))
    {result : Except Failure Handle}
    (provides :
      (environment.workspace.provision
            (Value.ofTextOrNull request.choices.provisioner)
            (Value.ofTextOrNull request.choices.run) false).perform
          started =
        (result, after)) :
    (carryOut request detector).perform session =
      (conclude request.choices.isVerbose result).perform after := by
  have answers :
      answer request environment =
        environment.shell (Value.ofTextOrNull request.choices.provisioner)
            (Value.ofTextOrNull request.choices.run) >>= fun _ =>
          pure () := by
    rw [answer, isShell]
  have answered := congrArg (fun task => task.perform started) answers
  rw [perform_bind_pure, Environment.shell, perform_bind, provides]
    at answered
  rw [perform_carryOut starts answered]
  cases result with
  | ok handle => rfl
  | error failure => rfl

/-- What is told of a failure that is neither the orchestrator's nor the user's. -/
def reportOwn (isVerbose : Bool) (failure : Failure) : Work Int := do
  Work.tell (.environmentFailed failure)
  if isVerbose then
    Work.printError ("<traceback " ++ failure.kind ++ ">\n")
  return 1

theorem report_of_isOwn
    {failure : Failure} (isOwn : failure.IsOwn)
    (notInterrupted : failure ≠ .interrupted) (isVerbose : Bool) :
    report isVerbose failure = reportOwn isVerbose failure := by
  cases failure with
  | provisioning _ => cases isOwn
  | interrupted => exact absurd rfl notInterrupted
  | _ => rfl

theorem perform_report_of_isOwn
    {failure : Failure} (isOwn : failure.IsOwn)
    (notInterrupted : failure ≠ .interrupted) (isVerbose : Bool)
    (session : Session) :
    ∃ after,
      (report isVerbose failure).perform session = (.ok 1, after) ∧
        after.surroundings = session.surroundings ∧
        after.printed = session.printed := by
  rw [report_of_isOwn isOwn notInterrupted]
  cases isVerbose with
  | true =>
      refine ⟨_, rfl, ?_, ?_⟩
      · exact
          (Session.surroundings_add _ rfl).trans
            (Session.surroundings_add _ rfl)
      · show ((session.add _).add _).printed = _
        simp [Event.outputText]
  | false =>
      refine ⟨_, rfl, Session.surroundings_add _ rfl, ?_⟩
      show (session.add _).printed = _
      simp [Event.outputText]

theorem exitStatus_ne_zero (status : Option Int) : exitStatus status ≠ 0 := by
  cases status with
  | none => decide
  | some code =>
      rw [exitStatus]
      split_ifs with isZero
      · decide
      · exact isZero

/-- The session when a failure of the orchestrator has been reported. -/
def passingOn (session : Session) (failure : ProvisioningFailure) : Session :=
  ((session.add (.output failure.output)).add (.errors failure.errors)).add
    (.notice (.orchestratorFailed failure.message))

theorem perform_report_provisioning
    (isVerbose : Bool) (failure : ProvisioningFailure) (session : Session) :
    (report isVerbose (.provisioning failure)).perform session =
      (.ok (exitStatus failure.status), passingOn session failure) :=
  rfl

theorem surroundings_passingOn
    (session : Session) (failure : ProvisioningFailure) :
    (passingOn session failure).surroundings = session.surroundings :=
  (Session.surroundings_add _ rfl).trans
    ((Session.surroundings_add _ rfl).trans (Session.surroundings_add _ rfl))

theorem printed_passingOn
    (session : Session) (failure : ProvisioningFailure) :
    (passingOn session failure).printed = session.printed ++ failure.output := by
  simp [passingOn, Event.outputText]

/-- Standard error ends with what the process printed there, and the line of the failure. -/
theorem errors_passingOn
    (session : Session) (failure : ProvisioningFailure) (console : Console) :
    console.errors (passingOn session failure).history =
      console.errors session.history ++ failure.errors ++
        console.fullLine (.orchestratorFailed failure.message) := by
  have isHeard :
      Logging.Level.threshold console.isVerbose ≤
        (Notice.orchestratorFailed failure.message).level := by
    show _ ≤ Logging.Level.error
    cases console.isVerbose <;> decide
  rw [← console.line_eq isHeard]
  simp [passingOn, Console.errorText]

theorem exits_of_success
    {output errors : Option String} {before : Session}
    (silent : after.printed = before.printed) :
    (Outcome.exited (some 0) output errors).Exits before after 0 := by
  refine
    ⟨by simp, ?_, nofun, nofun, nofun, nofun, ?_, fun _ => silent⟩
  · rintro code _ _ notZero same
    cases same
    exact absurd rfl notZero
  · rintro code _ _ notZero same
    cases same
    exact absurd rfl notZero

/-- What a process left behind that failed is passed on. -/
theorem exits_of_failure
    {status : Option Int} (notZero : status ≠ some 0)
    (output errors : Option String) (message : String) {before : Session}
    (silent : after.printed = before.printed) :
    (Outcome.exited status output errors).Exits before
      (passingOn after ⟨message, status, output.getD "", errors.getD ""⟩)
      (exitStatus status) := by
  refine ⟨?_, ?_, ?_, nofun, nofun, nofun, ?_, ?_⟩
  · refine iff_of_false (exitStatus_ne_zero status) ?_
    rintro ⟨_, _, same⟩
    cases same
    exact notZero rfl
  · rintro code _ _ codeNotZero same
    cases same
    exact if_neg codeNotZero
  · rintro _ _ same
    cases same
    rfl
  · rintro code _ _ _ same
    cases same
    refine ⟨?_, message, fun console => ⟨_, errors_passingOn _ _ _⟩⟩
    rw [printed_passingOn, silent]
  · intro isZero
    exact absurd (isZero _ _ _ rfl) notZero

/-- From the end of the process on, its outcome decides how the run exits. -/
theorem exits_conclude
    {outcome : Outcome} {executable : Value}
    {completion : Except Failure Completion}
    (counts : outcome.Counts executable completion)
    (handleOf : Completion → Handle) (isVerbose : Bool) {before : Session}
    (silent : after.printed = before.printed) :
    ∃ status final,
      (conclude isVerbose (completion.map handleOf)).perform after =
          (.ok status, final) ∧
        final.surroundings = after.surroundings ∧
        outcome.Exits before final status := by
  have silentStill :
      ∀ event : Event, event.outputText = "" →
        (after.add event).printed = before.printed := by
    intro event noText
    rw [Session.printed_add, noText, silent]
    exact String.append_empty
  cases counts with
  | success output errors =>
      exact
        ⟨0, _, rfl, Session.surroundings_add _ rfl,
          exits_of_success (silentStill _ rfl)⟩
  | failure notZero output errors message =>
      exact
        ⟨_, _, perform_report_provisioning isVerbose _ after,
          surroundings_passingOn _ _,
          exits_of_failure notZero output errors message silent⟩
  | missing message =>
      refine
        ⟨1, _,
          perform_report_provisioning isVerbose ⟨message, none, "", ""⟩ after,
          surroundings_passingOn _ _,
          ⟨by simp, nofun, nofun, fun _ => rfl, nofun, nofun, nofun, ?_⟩⟩
      intro _
      rw [printed_passingOn, silent]
      exact String.append_empty
  | denied =>
      obtain ⟨final, reports, same, silentReport⟩ :=
        perform_report_of_isOwn
          (show (Failure.notStarted _).IsOwn from trivial) nofun isVerbose
          after
      exact
        ⟨1, final, reports, same,
          ⟨by simp, nofun, nofun, nofun, fun _ => rfl, nofun, nofun,
            fun _ => silentReport.trans silent⟩⟩
  | interrupted =>
      exact
        ⟨130, _, rfl, Session.surroundings_add _ rfl,
          ⟨by simp, nofun, nofun, nofun, nofun, fun _ => rfl, nofun,
            fun _ => silentStill _ rfl⟩⟩

/-- Up to the end of a provision nothing is printed, and only the provision starts anything. -/
theorem reached_of_provides
    (starts :
      (Environment.start (settingsOf request.choices) detector).perform
          session =
        (.ok environment, started))
    {name command : Value} {result : Except Failure Handle}
    {own : List Start}
    (provides :
      (environment.workspace.provision name command false).perform started =
        (result, after))
    (continues : started.Continues own after) :
    session.Continues own after ∧ after.printed = session.printed := by
  have startPrints :=
    Environment.keeps_start_of_tell .tell_printed
      (settingsOf request.choices) detector session
  have provisionPrints :=
    environment.workspace.keeps_printed_provision name command false started
  have startKeeps :=
    Environment.keeps_start (settingsOf request.choices) detector session
  rw [starts] at startPrints startKeeps
  rw [provides] at provisionPrints
  exact
    ⟨(Session.Continues.of_surroundings_eq startKeeps).trans continues,
      provisionPrints.trans startPrints⟩

/--
Where the environment is set up, the run is meant, and the expression for the Nix shell is
written, the shell is started with every executable that can be told of, and its outcome
decides how the run exits.  Without a start the run exits with the status one, and prints
nothing on standard output.
-/
theorem shell_exits_by_outcome
    {arguments : List String} {provisioner : Provisioner}
    {set : DependencySet} {content : Value}
    (asks : read arguments = .ok (.request request))
    (isShell : request.command = .shell)
    (isReal : request.choices.isDryRun = false)
    (starts :
      (Environment.start (settingsOf request.choices) detector).perform
          session =
        (.ok environment, started))
    (expression :
      environment.workspace.WritesExpression
        (Value.ofTextOrNull request.choices.provisioner) started provisioner
        set content) :
    ∃ executable status final own,
      provisioner.setting "executable" (.text "nix-shell") = .ok executable ∧
        (run arguments detector).perform session = (.ok status, final) ∧
        session.Continues own final ∧
        (executable.holdsLong = false ∧ (∃ start, own = [start]) ∧
            (session.outcomes.headD .quiet).Exits session final status ∨
          executable.holdsLong = true ∧ own = [] ∧ status = 1 ∧
            final.printed = session.printed) := by
  have runs : run arguments detector = carryOut request detector := by
    rw [run, asks]
  have setsUp := Environment.perform_start_iff.1 starts
  have workspaceReal : environment.workspace.isDryRun = false :=
    setsUp.isDryRun.trans isReal
  obtain ⟨executable, executableSet⟩ :=
    Provisioner.exists_setting_of_content expression.isNix expression.rendered
      "executable" (.text "nix-shell")
  rw [runs]
  cases isLong : executable.holdsLong with
  | true =>
      obtain ⟨ended, provides, continues⟩ :=
        Workspace.fails_of_holdsLong workspaceReal expression executableSet
          isLong (Value.ofTextOrNull request.choices.run) false
      obtain ⟨reached, silent⟩ := reached_of_provides starts provides continues
      obtain ⟨final, reports, same, silentReport⟩ :=
        perform_report_of_isOwn (show Failure.longNumber.IsOwn from trivial)
          nofun request.choices.isVerbose ended
      have exits :=
        (perform_carryOut_shell isShell starts provides).trans reports
      exact
        ⟨executable, 1, final, [], executableSet, exits,
          reached.trans (.of_surroundings_eq same),
          .inr ⟨isLong, rfl, rfl, silentReport.trans silent⟩⟩
  | false =>
      obtain ⟨start, completion, ended, provides, continues, counts⟩ :=
        Workspace.counts_of_writesExpression workspaceReal
          Value.isText_ofTextOrNull expression executableSet isLong false
      obtain ⟨reached, silent⟩ := reached_of_provides starts provides continues
      have sameOutcomes : started.outcomes = session.outcomes :=
        congrArg (·.2.1) setsUp.tells.surroundings
      rw [sameOutcomes] at counts
      obtain ⟨status, final, concludes, same, exits⟩ :=
        exits_conclude counts (provisioner.shellHandle set)
          request.choices.isVerbose silent
      exact
        ⟨executable, status, final, [start], executableSet,
          (perform_carryOut_shell isShell starts provides).trans concludes,
          reached.trans (.of_surroundings_eq same),
          .inl ⟨isLong, ⟨start, rfl⟩, exits⟩⟩

/-- A shell that exits with the status seven hands on its status and its output. -/
theorem shell_exits_with_seven :
    ∃ final,
      (run ["shell"] ⟨⟨"Linux", "x86_64", "3.11"⟩, none⟩).perform
            (.inEmptyHome [.exited (some 7) (some "built") (some "broken")]) =
          (.ok 7, final) ∧
        final.printed = "built" := by
  let session : Session :=
    .inEmptyHome [.exited (some 7) (some "built") (some "broken")]
  obtain ⟨executable, status, final, own, executableSet, runs, _, ends⟩ :=
    @shell_exits_by_outcome ⟨.shell, {}⟩ ⟨⟨"Linux", "x86_64", "3.11"⟩, none⟩
      session _ _ ["shell"] _ _ _ rfl rfl rfl rfl
      ⟨rfl, rfl, rfl, rfl, eq_ok_of_isOk (by decide +kernel)⟩
  rcases ends with ⟨_, _, exits⟩ | ⟨isLong, _⟩
  · have isSeven := exits.code 7 _ _ (by decide) rfl
    have printed := (exits.passedOn (some 7) _ _ (by decide) rfl).1
    rw [isSeven] at runs
    exact ⟨final, runs, printed⟩
  · cases executableSet
    cases isLong

end CommandLine

end NativeDeps
