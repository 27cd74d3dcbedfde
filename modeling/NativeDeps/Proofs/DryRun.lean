import NativeDeps.Proofs.Request

/-!
# Dry runs

A dry run of any requests changes nothing but what is told, by an induction over the
requests.  What it gives does not depend on what the requests that are meant would have
changed: the handle of a provision is foretold.
-/

namespace NativeDeps

namespace Request

open Work

/-- The same request, asked of what only tells what it would do. -/
def dry : Request → Request
  | .render provisioner set => .render provisioner.dry set
  | .write provisioner path content => .write provisioner.dry path content
  | .run provisioner words directory capturesOutput =>
      .run provisioner.dry words directory capturesOutput
  | .provide provisioner set command capturesOutput =>
      .provide provisioner.dry set command capturesOutput
  | .resolve workspace => .resolve workspace.dry
  | .choose workspace name => .choose workspace.dry name
  | .provision workspace name command capturesOutput =>
      .provision workspace.dry name command capturesOutput
  | .summarize workspace => .summarize workspace.dry
  | .start settings detector => .start { settings with isDryRun := true } detector
  | .renderFor environment => .renderFor environment.dry
  | .shell environment name command => .shell environment.dry name command
  | .showInfo environment => .showInfo environment.dry

theorem keeps_dry_work (request : Request) :
    Keeps Session.surroundings request.dry.work := by
  cases request with
  | render provisioner set => exact (Keeps.ofExcept _).change _
  | write provisioner path content =>
      exact (provisioner.keeps_dry_write path content).change _
  | run provisioner words directory capturesOutput =>
      exact
        (provisioner.keeps_dry_run capturesOutput words directory).change _
  | provide provisioner set command capturesOutput =>
      exact
        (provisioner.keeps_dry_provision set command capturesOutput).change _
  | resolve workspace => exact workspace.dry.keeps_resolve.change _
  | choose workspace name => exact (Keeps.ofExcept _).change _
  | provision workspace name command capturesOutput =>
      exact
        (workspace.keeps_dry_provision name command capturesOutput).change _
  | summarize workspace => exact workspace.dry.keeps_summary.change _
  | start settings detector =>
      exact (Environment.keeps_start _ detector).change _
  | renderFor environment => exact environment.dry.keeps_render.change _
  | shell environment name command =>
      exact (environment.keeps_dry_shell name command).change _
  | showInfo environment => exact environment.dry.keeps_showInfo.change _

/-- Whatever handle a request gives is the one that is told of in a dry run. -/
theorem foretells_handle (request : Request) (handle : Handle) :
    ∀ session,
      (request.work.perform session).1 = .ok (some handle) →
        (request.dry.work.perform session).1 = .ok (some handle) := by
  have noHandle :
      ∀ {α : Type} {task : Work α} {session : Session},
        ((task >>= fun _ => pure none : Work (Option Handle)).perform
          session).1 ≠ .ok (some handle) := by
    intro α task session
    rw [perform_bind_pure]
    cases (task.perform session).1 with
    | error failure => exact nofun
    | ok value => exact nofun
  intro session gives
  cases request with
  | render provisioner set => exact absurd gives noHandle
  | write provisioner path content => exact absurd gives noHandle
  | run provisioner words directory capturesOutput =>
      exact absurd gives noHandle
  | resolve workspace => exact absurd gives noHandle
  | choose workspace name => exact absurd gives noHandle
  | summarize workspace => exact absurd gives noHandle
  | start settings detector => exact absurd gives noHandle
  | renderFor environment => exact absurd gives noHandle
  | showInfo environment => exact absurd gives noHandle
  | provide provisioner set command capturesOutput =>
      have foretells :=
        provisioner.foretells_provision set command capturesOutput
      exact (foretells.change some).perform_eq_ok gives
  | provision workspace name command capturesOutput =>
      have foretells :=
        workspace.foretells_provision name command capturesOutput
      exact (foretells.change some).perform_eq_ok gives
  | shell environment name command =>
      have foretells :=
        environment.foretells_shell name command
      exact (foretells.change some).perform_eq_ok gives

end Request

namespace Session

/-- Requests of what only tells change nothing but what is told. -/
theorem surroundings_after_dry
    (session : Session) (requests : List Request) :
    (session.after (requests.map Request.dry)).surroundings =
      session.surroundings := by
  induction requests generalizing session with
  | nil => rfl
  | cons request rest induction =>
      have first := request.keeps_dry_work session
      exact (induction _).trans first

/--
A dry run of any requests leaves the files as they are and starts no process, and every
handle that a request gives when it is meant is the one that it gives in a dry run.
-/
theorem dry_run_keeps_and_foretells
    (session : Session) (requests : List Request) :
    (session.after (requests.map Request.dry)).files = session.files ∧
      (session.after (requests.map Request.dry)).starts = session.starts ∧
      (session.after (requests.map Request.dry)).outcomes =
        session.outcomes ∧
      ∀ (request : Request) (handle : Handle),
        (request.work.perform session).1 = .ok (some handle) →
          (request.dry.work.perform session).1 = .ok (some handle) := by
  have kept := session.surroundings_after_dry requests
  simp only [surroundings, Prod.mk.injEq] at kept
  rcases kept with ⟨files, outcomes, starts⟩
  refine ⟨files, starts, outcomes, ?_⟩
  intro request handle gives
  exact request.foretells_handle handle session gives

end Session

namespace Request

/-- A command that is to be run in a shell with one dependency. -/
def makeInShell : Request :=
  .provision (.withSettings []) (.text "nix") (.text "make") true

def makeInShellHandle : Handle where
  kind := .nix
  set := ⟨"demo", some "linux", [⟨"zlib", none⟩]⟩
  expression := some (.ofString "work/shell.nix")

/-- The shell is entered when that is meant, and the dry run gives its handle. -/
theorem dry_run_of_makeInShell :
    (makeInShell.work.perform (.inEmptyHome [])).1 =
        .ok (some makeInShellHandle) ∧
      (makeInShell.dry.work.perform (.inEmptyHome [])).1 =
        .ok (some makeInShellHandle) := by
  have gives :
      (makeInShell.work.perform (.inEmptyHome [])).1 =
        .ok (some makeInShellHandle) := by
    decide +kernel
  exact
    ⟨gives,
      (Session.dry_run_keeps_and_foretells (.inEmptyHome [])
        [makeInShell]).2.2.2 makeInShell makeInShellHandle gives⟩

end Request

end NativeDeps
