import NativeDeps.Proofs.Environment

/-!
# Requests

Everything that can be asked of provisioners, workspaces and environments, one after the
other.  A request may fail, and the next one is asked nevertheless, of the session that
is left behind.
-/

namespace NativeDeps

/-- Something that can be asked of a provisioner, a workspace or an environment. -/
inductive Request
  | render (provisioner : Provisioner) (set : DependencySet)
  | write (provisioner : Provisioner) (path : Files.Path) (content : Value)
  | run (provisioner : Provisioner) (words : List Value)
      (directory : Option Files.Path) (capturesOutput : Bool)
  | provide (provisioner : Provisioner) (set : DependencySet)
      (command : Value) (capturesOutput : Bool)
  | resolve (workspace : Workspace)
  | choose (workspace : Workspace) (name : Value)
  | provision (workspace : Workspace) (name command : Value)
      (capturesOutput : Bool)
  | summarize (workspace : Workspace)
  | start (settings : Settings) (detector : Detector)
  | renderFor (environment : Environment)
  | shell (environment : Environment) (name command : Value)
  | showInfo (environment : Environment)

namespace Request

open Work

/-- What is done for a request, and the handle if one is asked for. -/
def work : Request → Work (Option Handle)
  | .render provisioner set => do
      let _ ← Work.ofExcept (provisioner.render set)
      return none
  | .write provisioner path content => do
      provisioner.write path content
      return none
  | .run provisioner words directory capturesOutput => do
      let _ ← provisioner.run words directory capturesOutput
      return none
  | .provide provisioner set command capturesOutput => do
      let handle ← provisioner.provision set command capturesOutput
      return some handle
  | .resolve workspace => do
      let _ ← workspace.resolve
      return none
  | .choose workspace name => do
      let _ ← Work.ofExcept (workspace.provisioner name)
      return none
  | .provision workspace name command capturesOutput => do
      let handle ← workspace.provision name command capturesOutput
      return some handle
  | .summarize workspace => do
      let _ ← workspace.summary
      return none
  | .start settings detector => do
      let _ ← Environment.start settings detector
      return none
  | .renderFor environment => do
      let _ ← environment.render
      return none
  | .shell environment name command => do
      let handle ← environment.shell name command
      return some handle
  | .showInfo environment => do
      environment.showInfo
      return none

/-- The provision that a request asks a workspace for, if it asks for one. -/
def provision? : Request → Option (Workspace × Value × Value × Bool)
  | .provision workspace name command capturesOutput =>
      some (workspace, name, command, capturesOutput)
  | .shell environment name command =>
      some (environment.workspace, name, command, false)
  | _ => none

/-- A request for a provision does nothing else that changes the surroundings. -/
theorem surroundings_work_of_provision?
    {request : Request} {workspace : Workspace} {name command : Value}
    {capturesOutput : Bool}
    (asks :
      request.provision? = some (workspace, name, command, capturesOutput))
    (session : Session) :
    (request.work.perform session).2.surroundings =
      ((workspace.provision name command capturesOutput).perform
        session).2.surroundings := by
  cases request with
  | provision workspace name command capturesOutput =>
      cases asks
      rw [work, perform_bind_pure]
  | shell environment name command =>
      cases asks
      rw [work, perform_bind_pure, Environment.shell, perform_bind]
      rcases
          (environment.workspace.provision name command false).perform
            session with
        ⟨failure | handle, after⟩
      · rfl
      · exact after.surroundings_add rfl
  | _ => cases asks

theorem continues_work (request : Request) : Continues request.work := by
  cases request with
  | render provisioner set => exact (Keeps.ofExcept _).continues.change _
  | write provisioner path content =>
      exact (provisioner.keeps_write path content).continues.change _
  | run provisioner words directory capturesOutput =>
      exact
        (provisioner.continues_run words directory capturesOutput).change _
  | provide provisioner set command capturesOutput =>
      exact
        (provisioner.continues_provision set command capturesOutput).change _
  | resolve workspace =>
      exact workspace.keeps_resolve.processes.continues.change _
  | choose workspace name => exact (Keeps.ofExcept _).continues.change _
  | provision workspace name command capturesOutput =>
      exact
        (workspace.continues_provision name command capturesOutput).change _
  | summarize workspace =>
      exact workspace.keeps_summary.processes.continues.change _
  | start settings detector =>
      exact
        (Environment.keeps_start settings
          detector).processes.continues.change _
  | renderFor environment =>
      exact environment.keeps_render.processes.continues.change _
  | shell environment name command =>
      exact (environment.continues_shell name command).change _
  | showInfo environment =>
      exact environment.keeps_showInfo.processes.continues.change _

end Request

namespace Session

/-- The session in which some requests have been asked, one after the other. -/
def after (session : Session) : List Request → Session
  | [] => session
  | request :: rest => after (request.work.perform session).2 rest

/-- Whatever is asked, a session goes on: each process takes the next outcome. -/
theorem continues_after (session : Session) (requests : List Request) :
    ∃ earlier, session.Continues earlier (session.after requests) := by
  induction requests generalizing session with
  | nil => exact ⟨[], .of_processes_eq rfl⟩
  | cons request rest induction =>
      obtain ⟨own, first⟩ := request.continues_work session
      obtain ⟨others, further⟩ := induction (request.work.perform session).2
      exact ⟨own ++ others, first.trans further⟩

/-- A session in an empty directory, with the outcomes of the processes to come. -/
def inEmptyHome (outcomes : List Outcome) : Session where
  files :=
    { entries := [(["home"], .directory)]
      directory := ["home"] }
  outcomes := outcomes

end Session

/-- A workspace with one dependency, and with some settings of provisioners. -/
def Workspace.withSettings (provisioners : List (Value × Value)) :
    Workspace where
  configuration :=
    { environment :=
        .mapping [(.text "provisioners", .mapping provisioners)]
      platforms := .mapping []
      descriptor :=
        { name := "demo"
          base := ["zlib"]
          condition := ⟨[]⟩
          conditional := []
          scope := none
          named := by decide
          lawful := by decide } }
  host := .text "linux"
  directory := .ofString "work"
  isDryRun := false

end NativeDeps
