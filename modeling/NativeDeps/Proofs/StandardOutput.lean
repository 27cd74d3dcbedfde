import NativeDeps.Proofs.Manner
import NativeDeps.Proofs.Session.Mirroring
import NativeDeps.Proofs.ShellExit

/-!
# Standard output, whatever the manner

Except for the shell, a run of the program prints the same on standard output and exits
alike, however much is told, whether or not the request is meant, and wherever standard
error goes.  Every step mirrors the same step in another manner: what differs is told, and
that is never printed on standard output.
-/

namespace NativeDeps

open Work

namespace Workspace

variable (workspace : Workspace)

theorem mirrors_resolve : Mirrors Eq workspace.resolve workspace.resolve :=
  .bind_eq (.ofExcept _) fun _ =>
    .bind_eq (.ofExcept _) fun _ =>
      .bind_eq (.tell _ _) fun _ => .bind_eq (.tell _ _) fun _ => .pure rfl

theorem mirrors_summary : Mirrors Eq workspace.summary workspace.summary :=
  .bind_eq workspace.mirrors_resolve fun _ =>
    .bind_eq (.ofExcept _) fun _ => .pure rfl

end Workspace

namespace Environment

variable (environment : Environment)

theorem mirrors_render : Mirrors Eq environment.render environment.render :=
  .bind_eq (.ofExcept _) fun _ =>
    .bind_eq environment.workspace.mirrors_resolve fun _ => .ofExcept _

theorem mirrors_showInfo :
    Mirrors Eq environment.showInfo environment.showInfo :=
  .bind_eq environment.workspace.mirrors_summary fun _ =>
    .bind_eq (.printLines _) fun _ =>
      .bind_eq (.ofExcept _) fun _ =>
        .bind_eq (.ofExcept _) fun _ => .printLines _

/-- An expression is rendered whether or not anything is meant to be provided. -/
theorem render_dry : environment.dry.render = environment.render := by
  rw [render, show environment.dry.workspace.provisioner _ = _ from
    environment.workspace.provisioner_dry _, ofExcept_map_bind]
  rfl

/-- Environments that differ in whether they are meant are set up alike. -/
theorem mirrors_start
    (settings : Settings) (isDryRun : Bool) (detector : Detector) :
    Mirrors (fun environment other => environment.dry = other.dry)
      (start { settings with isDryRun := isDryRun } detector)
      (start settings detector) := by
  have completes :
      ∀ files configuration platform facts,
        Mirrors (fun environment other => environment.dry = other.dry)
          (complete { settings with isDryRun := isDryRun } files configuration
            platform facts)
          (complete settings files configuration platform facts) := by
    intro files configuration platform facts
    exact
      .bind_eq (.tell _ _) fun _ => .bind_eq (.ofExcept _) fun _ => .pure rfl
  rw [start_eq, start_eq]
  refine .bind_eq .files fun files => ?_
  refine .bind_eq (.ofExcept _) fun configuration => ?_
  refine .bind_eq (.ofExcept _) fun ⟨platform, facts⟩ => ?_
  refine .bind_eq (.ofExcept _) fun isKnown => ?_
  refine .ite ?_ (completes _ _ _ _)
  refine .bind_eq (.ofExcept _) fun _ => .bind_eq (.ofExcept _) fun _ => ?_
  exact .bind_eq (.tell _ _) fun _ => completes _ _ _ _

end Environment

namespace CommandLine

variable {request : Request} {arguments others : List String}

/-- A request for anything but the shell is answered alike by a dry environment. -/
theorem answer_dry
    (noShell : request.command ≠ .shell) (environment : Environment) :
    answer request environment.dry = answer request environment := by
  rcases request with ⟨command, choices⟩
  cases command with
  | resolve => rfl
  | render => rw [answer, answer, Environment.render_dry]
  | shell => exact absurd rfl noShell
  | info => rfl

theorem mirrors_answer
    (noShell : request.command ≠ .shell) {environment other : Environment}
    (same : environment.dry = other.dry) :
    Mirrors Eq (answer request.plain environment) (answer request other) := by
  rw [← answer_dry noShell other, ← same, answer_dry noShell]
  rcases request with ⟨command, choices⟩
  cases command with
  | resolve =>
      exact
        .bind_eq environment.workspace.mirrors_resolve fun _ =>
          .ite (.print _) (.printLines _)
  | render => exact .bind_eq environment.mirrors_render fun _ => .printText _
  | shell => exact absurd rfl noShell
  | info => exact environment.mirrors_showInfo

theorem mirrors_reportOwn (isVerbose wasVerbose : Bool) (failure : Failure) :
    Mirrors Eq (reportOwn isVerbose failure) (reportOwn wasVerbose failure) := by
  have keeps :
      ∀ isVerbose, Keeps Session.visible (reportOwn isVerbose failure) := by
    intro isVerbose
    refine .bind (.tell_visible _) fun _ => ?_
    cases isVerbose with
    | false => exact .pure _
    | true => exact .bind (.printError_visible _) fun _ => .pure _
  have ends :
      ∀ isVerbose session,
        ((reportOwn isVerbose failure).perform session).1 = .ok 1 := by
    intro isVerbose session
    cases isVerbose <;> rfl
  refine .of_keeps (keeps _) (keeps _) fun session later => ?_
  rw [ends, ends]
  exact .refl _

/-- Of a failure the same is printed on standard output, however much is told of it. -/
theorem mirrors_report (isVerbose wasVerbose : Bool) (failure : Failure) :
    Mirrors Eq (report isVerbose failure) (report wasVerbose failure) := by
  cases failure with
  | provisioning failure =>
      exact
        .bind_eq (.print _) fun _ =>
          .bind_eq (.printError _ _) fun _ =>
            .bind_eq (.tell _ _) fun _ => .pure rfl
  | interrupted => exact .bind_eq (.printError _ _) fun _ => .pure rfl
  | _ => exact mirrors_reportOwn _ _ _

theorem mirrors_carryOut
    (noShell : request.command ≠ .shell) (detector : Detector) :
    Mirrors Eq (carryOut request.plain detector) (carryOut request detector) := by
  have starts :=
    (Environment.mirrors_start (settingsOf request.choices) false
      detector).attempt
  refine .bind starts fun started otherStarted alike => ?_
  cases alike with
  | error failure => exact .bind_eq (.printError _ _) fun _ => .pure rfl
  | ok same =>
      refine .bind_eq (mirrors_answer noShell same).attempt_eq fun result => ?_
      cases result with
      | error failure => exact mirrors_report _ _ failure
      | ok _ => exact .pure rfl

/-- What is done when a command line has been read. -/
def respond (detector : Detector) : Except Fault Wish → Work Int
  | .error fault => do
      Work.printError
        (usageText ++ programName ++ ": error: " ++ fault.message ++ "\n")
      return 2
  | .ok .help => do
      Work.print helpText
      return 0
  | .ok (.request request) => carryOut request detector

theorem run_eq (arguments : List String) (detector : Detector) :
    run arguments detector = respond detector (read arguments) :=
  rfl

/-- A command line asks for the shell. -/
def AsksForShell (result : Except Fault Wish) : Prop :=
  ∃ choices, result = .ok (.request ⟨.shell, choices⟩)

theorem asksForShell_plainly {result : Except Fault Wish} :
    AsksForShell (plainly result) ↔ AsksForShell result := by
  rcases result with fault | _ | ⟨command, choices⟩
  · exact iff_of_false nofun nofun
  · exact iff_of_false nofun nofun
  · constructor
    · rintro ⟨_, ⟨⟩⟩
      exact ⟨choices, rfl⟩
    · rintro ⟨_, ⟨⟩⟩
      exact ⟨_, rfl⟩

theorem mirrors_respond
    {result : Except Fault Wish} (noShell : ¬AsksForShell result)
    (detector : Detector) :
    Mirrors Eq (respond detector (plainly result))
      (respond detector result) := by
  rcases result with fault | _ | ⟨command, choices⟩
  · exact .bind_eq (.printError _ _) fun _ => .pure rfl
  · exact .bind_eq (.print _) fun _ => .pure rfl
  · refine mirrors_carryOut ?_ detector
    rintro rfl
    exact noShell ⟨choices, rfl⟩

/-- Runs that ask for the same in different manners mirror each other. -/
theorem mirrors_run
    (alike : AskAlike arguments others)
    (noShell : ¬AsksForShell (read arguments)) (detector : Detector) :
    Mirrors Eq (run arguments detector) (run others detector) := by
  have otherNoShell : ¬AsksForShell (read others) := by
    rwa [← asksForShell_plainly, ← alike, asksForShell_plainly]
  have first := mirrors_respond noShell detector
  have second := mirrors_respond otherNoShell detector
  rw [← alike] at second
  exact first.symm.trans second

theorem neverFails_report (isVerbose : Bool) (failure : Failure) :
    NeverFails (report isVerbose failure) := by
  have own : NeverFails (reportOwn isVerbose failure) := by
    refine .bind (.record _) fun _ => ?_
    cases isVerbose with
    | false => exact .pure _
    | true => exact .bind (.record _) fun _ => .pure _
  cases failure with
  | provisioning failure =>
      exact
        .bind (.record _) fun _ =>
          .bind (.record _) fun _ => .bind (.record _) fun _ => .pure _
  | interrupted => exact .bind (.record _) fun _ => .pure _
  | _ => exact own

theorem neverFails_carryOut (request : Request) (detector : Detector) :
    NeverFails (carryOut request detector) := by
  refine .bind (.attempt _) fun started => ?_
  cases started with
  | error failure => exact .bind (.record _) fun _ => .pure _
  | ok environment =>
      refine .bind (.attempt _) fun result => ?_
      cases result with
      | ok _ => exact .pure _
      | error failure => exact neverFails_report _ failure

/-- A run of the program always ends with an exit status. -/
theorem neverFails_run (arguments : List String) (detector : Detector) :
    NeverFails (run arguments detector) := by
  rw [run_eq]
  rcases read arguments with fault | _ | request
  · exact .bind (.record _) fun _ => .pure _
  · exact .bind (.record _) fun _ => .pure _
  · exact neverFails_carryOut request detector

/-- What can be seen of a run from outside. -/
structure Appearance where
  status : Except Failure Int
  output : String
  errors : String
deriving Repr

/-- How a run looks, with standard error on a terminal or elsewhere, at some moment. -/
def appearance (arguments : List String) (detector : Detector)
    (isTerminal : Bool) (now : Calendar.Moment) (session : Session) :
    Appearance :=
  let (status, after) := (run arguments detector).perform session
  let console : Console := ⟨isVerbose arguments, isTerminal, now⟩
  ⟨status, outputOf after.history, console.errors after.history⟩

/--
Whatever is asked for but the shell, there is one exit status and one text on standard
output, wherever standard error goes and in whatever manner the same is asked for; any
flags about the manner can stand before the rest.
-/
theorem appears_alike_in_every_manner
    (arguments : List String) (noShell : ¬AsksForShell (read arguments))
    (detector : Detector) (session : Session) :
    (∃ status output,
      ∀ others,
        AskAlike arguments others →
          ∀ isTerminal now,
            let seen := appearance others detector isTerminal now session
            seen.status = .ok status ∧ seen.output = output) ∧
      ∀ flags,
        (∀ flag ∈ flags, flag ∈ mannerSpellings) →
          AskAlike arguments (flags ++ arguments) := by
  refine ⟨?_, fun flags areManner => (askAlike_append areManner arguments).symm⟩
  obtain ⟨status, after, performs⟩ :=
    neverFails_run arguments detector session
  refine ⟨status, after.printed, fun others alike isTerminal now => ?_⟩
  obtain ⟨ended, left⟩ := mirrors_run alike noShell detector session session rfl
  rw [performs] at ended left
  exact ⟨ended.eq.symm, (congrArg Prod.snd left).symm⟩

/-- The dependencies of the shipped configuration are printed alike in every manner. -/
theorem shipped_dependencies_appear_alike :
    ¬AsksForShell (read ["resolve"]) ∧
      ∀ flags ∈ [[], ["-v"], ["--dry-run"], ["--verbose", "--dry-run"]],
        ∀ isTerminal now,
          let seen :=
            appearance (flags ++ ["resolve"])
              ⟨⟨"Linux", "x86_64", "3.11"⟩, none⟩ isTerminal now
              (.inEmptyHome [])
          seen.status = .ok 0 ∧
            seen.output = "xxHash\nzstd\nlibsodium\nopenssl\npkgconfig\n" := by
  have noShell : ¬AsksForShell (read ["resolve"]) := by
    rintro ⟨choices, ⟨⟩⟩
  obtain ⟨⟨status, output, seen⟩, inFront⟩ :=
    appears_alike_in_every_manner ["resolve"] noShell
      ⟨⟨"Linux", "x86_64", "3.11"⟩, none⟩ (.inEmptyHome [])
  refine ⟨noShell, fun flags member isTerminal now => ?_⟩
  have areManner : ∀ flag ∈ flags, flag ∈ mannerSpellings := by
    revert flags
    decide
  obtain ⟨isZero, isPrinted⟩ := seen ["resolve"] rfl isTerminal now
  obtain ⟨exits, prints⟩ :=
    seen (flags ++ ["resolve"]) (inFront flags areManner) isTerminal now
  refine ⟨exits.trans isZero.symm, prints.trans (isPrinted.symm.trans ?_)⟩
  show
    outputOf
        ((run ["resolve"] ⟨⟨"Linux", "x86_64", "3.11"⟩, none⟩).perform
          (.inEmptyHome [])).2.history =
      _
  decide +kernel

end CommandLine

end NativeDeps
