import NativeDeps.Proofs.Request
import NativeDeps.Proofs.Value

/-!
# Outcomes of the shell

Every process that a provision starts takes the next outcome, and that outcome alone
decides how the provision ends.  A provision that starts no process takes none, and
cannot fail for the build orchestrator.
-/

namespace NativeDeps

/--
How an outcome decides the result of a provision: the status zero gives a handle, any
other status and a missing executable are failures of the build orchestrator with what
the process left behind, and whatever else stopped it is passed on.
-/
structure Outcome.Decides (outcome : Outcome) (executable : Value)
    (result : Except Failure Handle) : Prop where
  handle_iff :
    (∃ handle, result = .ok handle) ↔
      ∃ output errors, outcome = .exited (some 0) output errors
  failure_iff :
    (∃ failure, result = .error (.provisioning failure)) ↔
      (∃ status output errors,
        status ≠ some 0 ∧ outcome = .exited status output errors) ∨
      outcome = .notFound
  failed :
    ∀ status output errors,
      status ≠ some 0 →
        outcome = .exited status output errors →
          ∃ message,
            result =
              .error
                (.provisioning
                  ⟨message, status, output.getD "", errors.getD ""⟩)
  missing :
    outcome = .notFound →
      ∃ message, result = .error (.provisioning ⟨message, none, "", ""⟩)
  denied :
    outcome = .denied →
      result = .error (.notStarted (Provisioner.shownExecutable executable))
  interrupted : outcome = .interrupted → result = .error .interrupted

namespace Outcome

theorem Counts.decides
    {outcome : Outcome} {executable : Value}
    {completion : Except Failure Completion}
    (counts : outcome.Counts executable completion)
    (handleOf : Completion → Handle) :
    outcome.Decides executable (completion.map handleOf) := by
  cases counts with
  | success output errors =>
      refine
        ⟨by simp [Except.map], by simp [Except.map], ?_, nofun, nofun, nofun⟩
      rintro status otherOutput otherErrors notZero same
      cases same
      exact absurd rfl notZero
  | failure notZero output errors message =>
      refine
        ⟨by simp [Except.map, notZero], by simp [Except.map, notZero], ?_,
          nofun, nofun, nofun⟩
      rintro status otherOutput otherErrors _ same
      cases same
      exact ⟨message, rfl⟩
  | missing message =>
      exact
        ⟨by simp [Except.map], by simp [Except.map], nofun,
          fun _ => ⟨message, rfl⟩, nofun, nofun⟩
  | denied =>
      exact
        ⟨by simp [Except.map], by simp [Except.map], nofun, nofun,
          fun _ => rfl, nofun⟩
  | interrupted =>
      exact
        ⟨by simp [Except.map], by simp [Except.map], nofun, nofun, nofun,
          fun _ => rfl⟩

end Outcome

namespace Provisioner

variable {provisioner : Provisioner}

/-- Settings that can be asked for one entry can be asked for any. -/
theorem exists_setting
    {name : String} {fallback value : Value}
    (known : provisioner.setting name fallback = .ok value)
    (other : String) (otherFallback : Value) :
    ∃ otherValue, provisioner.setting other otherFallback = .ok otherValue := by
  rw [setting, Value.get] at known ⊢
  cases entries : provisioner.settings.entries with
  | error failure =>
      rw [entries] at known
      cases known
  | ok entries => exact ⟨_, rfl⟩

/-- A command without long numbers can be told of. -/
theorem exists_line
    {words : List Value} (short : ∀ word ∈ words, word.holdsLong = false) :
    ∃ line, lineOf words = .ok line := by
  have written :
      ∃ texts, words.mapM Value.written = .ok texts := by
    induction words with
    | nil => exact ⟨[], rfl⟩
    | cons word rest induction =>
        have wordShort := short word List.mem_cons_self
        obtain ⟨texts, restWritten⟩ :=
          induction fun other member =>
            short other (List.mem_cons_of_mem word member)
        refine ⟨word.asText :: texts, ?_⟩
        rw [List.mapM_cons, Value.written, wordShort, restWritten]
        rfl
  obtain ⟨texts, written⟩ := written
  rw [lineOf, written]
  exact ⟨_, rfl⟩

/-- Settings that the expression can be rendered with can be asked for any entry. -/
theorem exists_setting_of_content
    (isNix : provisioner.kind = .nix) {set : DependencySet} {content : Value}
    (rendered : provisioner.content set = .ok content) (name : String)
    (fallback : Value) :
    ∃ value, provisioner.setting name fallback = .ok value := by
  cases packagesSet :
      provisioner.setting "package_set" (.text "<nixpkgs>") with
  | ok packages => exact exists_setting packagesSet name fallback
  | error failure =>
      rw [Provisioner.content, render, isNix, packagesSet] at rendered
      cases rendered

/-- The words of a shell hold no long numbers, if its executable and command hold none. -/
theorem holdsLong_of_mem_shellWords
    {executable isPure command word : Value} {place : Files.Path}
    (short : executable.holdsLong = false)
    (commandShort : command.holdsLong = false)
    (member : word ∈ shellWords executable isPure place command) :
    word.holdsLong = false := by
  rw [shellWords, List.mem_append, List.mem_cons, List.mem_cons] at member
  rcases member with (rfl | isOption) | rfl | isCommand
  · exact short
  · split at isOption
    · rw [List.mem_singleton] at isOption
      rw [isOption]
      rfl
    · cases isOption
  · exact (Value.isText_ofSpelling _).holdsLong
  · split at isCommand
    · rcases List.mem_cons.1 isCommand with rfl | isLast
      · rfl
      · rw [List.mem_singleton.1 isLast]
        exact commandShort
    · cases isCommand

end Provisioner

namespace Workspace

/-- The expression of the set that is asked for is written successfully. -/
structure WritesExpression (workspace : Workspace) (name : Value)
    (session : Session) (provisioner : Provisioner) (set : DependencySet)
    (content : Value) : Prop where
  asked : workspace.provisioner name = .ok provisioner
  isNix : provisioner.kind = .nix
  resolved : workspace.descriptor.resolveOn workspace.host = .ok set
  rendered : provisioner.content set = .ok content
  writes :
    ((provisioner.write provisioner.expressionPath content).perform
        session).1 =
      .ok ()

/-- What a provision starts, and how it ends, by the next outcome. -/
structure TakesOutcome (workspace : Workspace) (name : Value)
    (session : Session) (outcome : Outcome) (own : List Start)
    (result : Except Failure Handle) : Prop where
  manifest :
    ∀ provisioner,
      workspace.provisioner name = .ok provisioner →
        provisioner.kind = .manifest → own = []
  shell :
    ∀ provisioner set content executable,
      workspace.WritesExpression name session provisioner set content →
        provisioner.setting "executable" (.text "nix-shell") =
            .ok executable →
          executable.holdsLong = false → ∃ start, own = [start]
  decides :
    ∀ start ∈ own,
      own = [start] ∧
        ∃ executable,
          start.call.command.head? = some executable ∧
            outcome.Decides executable result
  nothing :
    own = [] →
      FailsOwn result ∧
        ∀ provisioner,
          workspace.provisioner name = .ok provisioner →
            provisioner.kind = .nix → ∃ failure, result = .error failure

variable {workspace : Workspace} {name command : Value} {session : Session}

/-- A provision whose expression is written comes to the start of the shell. -/
theorem enters_of_writesExpression
    (isReal : workspace.isDryRun = false)
    (commandShort : command.holdsLong = false)
    {provisioner : Provisioner} {set : DependencySet}
    {content executable : Value}
    (expression :
      workspace.WritesExpression name session provisioner set content)
    (executableSet :
      provisioner.setting "executable" (.text "nix-shell") = .ok executable)
    (short : executable.holdsLong = false) :
    ∃ text words line files,
      workspace.Enters name command session.files provisioner set text words
        line files := by
  rcases expression with ⟨asked, isNix, resolved, rendered, writes⟩
  have provisionerReal : provisioner.isDryRun = false :=
    (eq_of_provisioner asked).2.trans isReal
  obtain ⟨text, files, rfl, written, _⟩ :=
    Provisioner.written_of_write provisionerReal (Prod.ext writes rfl)
  obtain ⟨isPure, pureSet⟩ :=
    Provisioner.exists_setting executableSet "pure" (.bool false)
  let place :=
    provisioner.expressionPath.resolve session.files.directory
  have ordered :
      provisioner.shellCommand place command =
        .ok (Provisioner.shellWords executable isPure place command) := by
    rw [Provisioner.shellCommand, executableSet, pureSet]
    rfl
  obtain ⟨line, told⟩ :=
    Provisioner.exists_line fun word member =>
      Provisioner.holdsLong_of_mem_shellWords short commandShort member
  exact
    ⟨text, _, line, files, asked, resolved, isNix, rendered, written, ordered,
      told⟩

/-- A provision takes the next outcome, or starts nothing. -/
theorem exists_takesOutcome
    (isReal : workspace.isDryRun = false) (name : Value)
    (textual : command ≠ .null → command.IsText)
    (capturesOutput : Bool) (session : Session) :
    ∃ own result after,
      (workspace.provision name command capturesOutput).perform session =
          (result, after) ∧
        session.Continues own after ∧
        workspace.TakesOutcome name session
          (session.outcomes.headD .quiet) own result := by
  rcases enters_or_starts_nothing isReal name command capturesOutput
      session with
    ⟨provisioner, set, text, words, line, files, enters⟩ |
      ⟨result, after, performs, continues, failsOwn, fails⟩
  · have continues := continues_of_enters isReal enters capturesOutput
    obtain ⟨executable, isPure, _, _, rfl⟩ :=
      Provisioner.shellCommand_eq enters.enters.ordered
    obtain ⟨completion, counts, ends⟩ :=
      counts_of_enters isReal enters rfl capturesOutput
    refine
      ⟨_, _, _, Prod.ext ends rfl, continues, ?_, ?_, ?_, nofun⟩
    · intro other asked isManifest
      rw [enters.asked] at asked
      obtain rfl := Except.ok.inj asked
      rw [enters.isNix] at isManifest
      cases isManifest
    · intro other otherSet content otherExecutable _ _ _
      exact ⟨_, rfl⟩
    · intro start member
      rw [List.mem_singleton.1 member]
      exact ⟨rfl, executable, rfl, counts.decides _⟩
  · refine
      ⟨[], result, after, performs, continues, fun _ _ _ => rfl, ?_, nofun,
        fun _ => ⟨failsOwn, fails⟩⟩
    intro provisioner set content executable expression executableSet short
    obtain ⟨text, words, line, files, enters⟩ :=
      enters_of_writesExpression isReal (Value.holdsLong_of_isText textual)
        expression executableSet short
    have starts := continues_of_enters isReal enters capturesOutput
    rw [performs] at starts
    cases continues.own_eq starts

end Workspace

namespace Session

/-- The outcome that comes next is the first one that was not taken before. -/
theorem Continues.headD_outcomes
    {session before : Session} {taken : List Start}
    (continues : session.Continues taken before) (fallback : Outcome) :
    before.outcomes.headD fallback =
      session.outcomes.getD taken.length fallback := by
  rw [continues.outcomes, List.headD_eq_head?_getD, List.head?_drop,
    List.getD_eq_getElem?_getD]

/--
After any requests, a provision that is meant takes the outcome that follows those taken
before it, if it starts a process at all, and that outcome decides how it ends.
-/
theorem provision_takes_next_outcome
    (session : Session) (earlier : List Request) {workspace : Workspace}
    (isReal : workspace.isDryRun = false) (name : Value) {command : Value}
    (textual : command ≠ .null → command.IsText)
    (capturesOutput : Bool) :
    ∃ taken own result after,
      session.Continues taken (session.after earlier) ∧
        (workspace.provision name command capturesOutput).perform
            (session.after earlier) =
          (result, after) ∧
        (session.after earlier).Continues own after ∧
        workspace.TakesOutcome name (session.after earlier)
          (session.outcomes.getD taken.length .quiet) own result := by
  obtain ⟨taken, goesOn⟩ := session.continues_after earlier
  obtain ⟨own, result, after, performs, continues, takes⟩ :=
    Workspace.exists_takesOutcome isReal name textual capturesOutput
      (session.after earlier)
  rw [goesOn.headD_outcomes] at takes
  exact ⟨taken, own, result, after, goesOn, performs, continues, takes⟩

/-- The first provision takes the first outcome, and the second fails by the other. -/
theorem provision_takes_second_outcome :
    let session :=
      inEmptyHome
        [.exited (some 0) (some "done") none,
          .exited (some (-2)) none (some "stopped")]
    let workspace := Workspace.withSettings []
    let first := Request.provision workspace (.text "nix") (.text "make") true
    (session.after [first]).starts.length = 1 ∧
      (∃ message,
        ((workspace.provision .null (.text "check") false).perform
            (session.after [first])).1 =
          .error (.provisioning ⟨message, some (-2), "", "stopped"⟩)) ∧
      ∃ taken own result after,
        session.Continues taken (session.after [first]) ∧
          (workspace.provision .null (.text "check") false).perform
              (session.after [first]) =
            (result, after) ∧
          (session.after [first]).Continues own after ∧
          workspace.TakesOutcome .null (session.after [first])
            (session.outcomes.getD taken.length .quiet) own result := by
  refine
    ⟨by decide +kernel, ?_,
      provision_takes_next_outcome _ _ rfl .null (fun _ => by decide) false⟩
  set_option maxRecDepth 1000 in
    exact ⟨_, rfl⟩

end Session

namespace Workspace

/-- A workspace whose executable has more digits than are ever written. -/
def withLongExecutable : Workspace :=
  .withSettings
    [(.text "nix",
      .mapping
        [(.text "executable", .int (Decimal.tenTo Value.digitLimit))])]

/-- An expression may be written without any start of the shell after it. -/
theorem writesExpression_without_start :
    (∃ provisioner set content,
      withLongExecutable.WritesExpression (.text "nix") (.inEmptyHome [])
        provisioner set content) ∧
      ((withLongExecutable.provision (.text "nix") .null false).perform
        (.inEmptyHome [])).2.starts.length = 0 := by
  constructor
  · set_option maxRecDepth 1000 in
      exact ⟨_, _, _, ⟨rfl, rfl, rfl, rfl, rfl⟩⟩
  · decide +kernel

end Workspace

end NativeDeps
