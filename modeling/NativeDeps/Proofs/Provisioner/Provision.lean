import NativeDeps.Proofs.Provisioner.Shell

/-!
# What a provision comes to

A provision that comes to the start of the shell starts one process, and its result is
the result of that process.  Every other provision starts none: a manifest is only
written, and a shell that cannot be entered is a failure of its own.
-/

namespace NativeDeps

namespace Provisioner

open Work

variable {provisioner : Provisioner} {set : DependencySet} {session : Session}
  {command : Value}

/-- What is left to do for a manifest when the command has been looked at. -/
def writeManifest (provisioner : Provisioner) (set : DependencySet) :
    Work Handle := do
  let path ← Work.ofExcept provisioner.manifestPath
  provisioner.write path (← Work.ofExcept (provisioner.content set))
  Work.tell (.manifestWritten set.name path)
  return {
    kind := .manifest
    set := set
    manifest := some path }

theorem provideManifest_eq
    (provisioner : Provisioner) (set : DependencySet) (command : Value) :
    provisioner.provideManifest set command =
      if command.isGiven then
        Work.tell .commandIgnored >>= fun _ => provisioner.writeManifest set
      else
        provisioner.writeManifest set :=
  rfl

/-- What telling and writing leave alone, is left alone by writing a manifest. -/
theorem keeps_provideManifest_of {γ : Type} {view : Session → γ}
    (tells : ∀ notice, Keeps view (Work.tell notice))
    (writes :
      ∀ path content, Keeps view (provisioner.write path content))
    (set : DependencySet) (command : Value) :
    Keeps view (provisioner.provideManifest set command) := by
  have keepsWriting : Keeps view (provisioner.writeManifest set) :=
    .bind (.ofExcept _) fun path =>
      .bind (.ofExcept _) fun content =>
        .bind (writes path content) fun _ => .bind (tells _) fun _ => .pure _
  rw [provideManifest_eq]
  exact .ite (.bind (tells _) fun _ => keepsWriting) keepsWriting

theorem keeps_provideManifest
    (provisioner : Provisioner) (set : DependencySet) (command : Value) :
    Keeps Session.processes (provisioner.provideManifest set command) :=
  keeps_provideManifest_of (fun _ => (Keeps.tell _).processes)
    provisioner.keeps_write set command

theorem failsOwn_provideManifest
    (provisioner : Provisioner) (set : DependencySet) (command : Value) :
    Work.FailsOwn (provisioner.provideManifest set command) := by
  have ownWriting : Work.FailsOwn (provisioner.writeManifest set) :=
    .bind (.ofExcept provisioner.failsOwn_manifestPath) fun path =>
      .bind (.ofExcept (provisioner.failsOwn_content set)) fun content =>
        .bind (provisioner.failsOwn_write path content) fun _ =>
          .bind (.tell _) fun _ => .pure _
  rw [provideManifest_eq]
  exact .ite (.bind (.tell _) fun _ => ownWriting) ownWriting

theorem provision_of_nix
    (isNix : provisioner.kind = .nix) (set : DependencySet)
    (command : Value) (capturesOutput : Bool) :
    provisioner.provision set command capturesOutput =
      provisioner.provideShell set command capturesOutput := by
  rw [provision, isNix]

theorem provision_of_manifest
    (isManifest : provisioner.kind = .manifest) (set : DependencySet)
    (command : Value) (capturesOutput : Bool) :
    provisioner.provision set command capturesOutput =
      provisioner.provideManifest set command := by
  rw [provision, isManifest]

/-- A provision that comes to the start of the shell starts it, and nothing else. -/
theorem continues_provideShell
    (isReal : provisioner.isDryRun = false) {text : String} {line : Spelling}
    {words : List Value} {files : Files.Tree}
    (enters :
      provisioner.Enters set command session.files text words line files)
    (capturesOutput : Bool) :
    session.Continues
      [⟨⟨words, provisioner.directory, capturesOutput⟩, files⟩]
      ((provisioner.provideShell set command capturesOutput).perform
        session).2 := by
  obtain ⟨before, sameFiles, sameProcesses, performs⟩ :=
    perform_provideShell isReal enters capturesOutput
  have reached : session.Continues [] before :=
    .of_processes_eq sameProcesses
  have runs :=
    continues_run_of_not_isDryRun isReal enters.told none capturesOutput
      before
  rw [sameFiles] at runs
  rw [performs, perform_bind_pure]
  exact reached.trans runs

/-- The outcome of the process decides the result of the provision. -/
theorem counts_provideShell
    (isReal : provisioner.isDryRun = false) {text : String} {line : Spelling}
    {words : List Value} {files : Files.Tree} {executable : Value}
    (enters :
      provisioner.Enters set command session.files text words line files)
    (starts : executableOf words = .ok executable) (capturesOutput : Bool) :
    ∃ result,
      (session.outcomes.headD .quiet).Counts executable result ∧
        ((provisioner.provideShell set command capturesOutput).perform
            session).1 =
          result.map (provisioner.shellHandle set) := by
  obtain ⟨before, _, sameProcesses, performs⟩ :=
    perform_provideShell isReal enters capturesOutput
  have counts :=
    counts_run isReal enters.told starts none capturesOutput before
  have sameOutcomes : before.outcomes = session.outcomes :=
    congrArg (·.2.1) sameProcesses
  rw [sameOutcomes] at counts
  refine ⟨_, counts, ?_⟩
  rw [performs, perform_bind_pure]

/-- Whether it is meant or not, a provision goes on from its session. -/
theorem continues_provision
    (provisioner : Provisioner) (set : DependencySet) (command : Value)
    (capturesOutput : Bool) :
    Continues (provisioner.provision set command capturesOutput) := by
  cases kind : provisioner.kind with
  | manifest =>
      rw [provision_of_manifest kind]
      exact (provisioner.keeps_provideManifest set command).continues
  | nix =>
      have entering :
          Continues (provisioner.enterShell set command capturesOutput) := by
        refine .bind Keeps.files.continues fun tree => ?_
        refine .bind (Keeps.ofExcept _).continues fun words => ?_
        refine .bind (Keeps.ofExcept _).continues fun executable => ?_
        refine .bind (Keeps.ofExcept _).continues fun text => ?_
        refine .bind (Keeps.tell _).processes.continues fun _ => ?_
        exact
          .bind (provisioner.continues_run words none capturesOutput)
            fun _ => (Keeps.pure _).continues
      rw [provision_of_nix kind, provideShell_eq]
      refine .bind (Keeps.ofExcept _).continues fun content => ?_
      refine .bind (provisioner.keeps_write _ content).continues fun _ => ?_
      exact .bind (Keeps.checkPath _).continues fun _ => entering

/--
A provision that is meant comes to the start of the shell, or starts nothing.  Then it
does not fail for the build orchestrator, and without a manifest it fails.
-/
theorem provision_cases
    (isReal : provisioner.isDryRun = false) (set : DependencySet)
    (command : Value) (capturesOutput : Bool) (session : Session) :
    (∃ text words line files,
      provisioner.kind = .nix ∧
        provisioner.Enters set command session.files text words line
          files) ∨
      ∃ result after,
        (provisioner.provision set command capturesOutput).perform session =
            (result, after) ∧
          session.Continues [] after ∧ NativeDeps.FailsOwn result ∧
          (provisioner.kind = .nix → ∃ failure, result = .error failure) := by
  cases kind : provisioner.kind with
  | manifest =>
      have kept := provisioner.keeps_provideManifest set command session
      have failsOwn :=
        provisioner.failsOwn_provideManifest set command session
      rw [provision_of_manifest kind]
      exact .inr ⟨_, _, rfl, .of_processes_eq kept, failsOwn, nofun⟩
  | nix =>
      rw [provision_of_nix kind]
      rcases enters_or_fails isReal set command capturesOutput session with
        ⟨text, words, line, files, enters⟩ |
          ⟨failure, after, fails, isOwn, same⟩
      · exact .inl ⟨text, words, line, files, rfl, enters⟩
      · exact
          .inr
            ⟨.error failure, after, fails, .of_processes_eq same,
              .error isOwn, fun _ => ⟨failure, rfl⟩⟩

end Provisioner

end NativeDeps
