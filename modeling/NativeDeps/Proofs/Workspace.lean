import NativeDeps.Proofs.Provisioner.Draft
import NativeDeps.Workspace

/-!
# Workspaces at work

Whether a run is meant only shows in the provisioner that a workspace hands the
dependencies to.  So what holds of provisions carries over: a workspace starts what its
provisioner starts, a dry run changes nothing but what is told, and it foretells the
handle of the run that is meant.
-/

namespace NativeDeps

namespace Workspace

open Work

/-- The workspace that only tells what this one would do. -/
def dry (workspace : Workspace) : Workspace :=
  { workspace with isDryRun := true }

/-- The kind of the provisioner that a name stands for, and its settings. -/
def choice (workspace : Workspace) (name : Value) :
    Except Failure (ProvisionerKind × Value) := do
  let name ←
    if name.isGiven then
      Except.ok name
    else
      workspace.configuration.option (.text "default_provisioner") (.text "nix")
  let kind ← kindOf name
  return (kind, ← workspace.configuration.provisionerSettings name)

theorem provisioner_eq (workspace : Workspace) (name : Value) :
    workspace.provisioner name =
      (workspace.choice name).map fun (kind, settings) =>
        .make kind settings workspace.directory workspace.isDryRun := by
  show _ = (fun _ => _) <$> workspace.choice name
  rw [provisioner, choice]
  split
  · simp only [map_bind, map_pure]
  · simp only [map_bind, map_pure]

/-- The provisioner of a workspace works where the workspace does, and as it does. -/
theorem eq_of_provisioner
    {workspace : Workspace} {name : Value} {provisioner : Provisioner}
    (asked : workspace.provisioner name = .ok provisioner) :
    provisioner.directory = workspace.directory ∧
      provisioner.isDryRun = workspace.isDryRun := by
  rw [provisioner_eq] at asked
  cases chosen : workspace.choice name with
  | error failure =>
      rw [chosen] at asked
      cases asked
  | ok pair =>
      rw [chosen] at asked
      cases asked
      exact ⟨rfl, rfl⟩

theorem provisioner_dry (workspace : Workspace) (name : Value) :
    workspace.dry.provisioner name =
      (workspace.provisioner name).map Provisioner.dry := by
  have sameChoice : workspace.dry.choice name = workspace.choice name := rfl
  rw [provisioner_eq, provisioner_eq, sameChoice]
  cases workspace.choice name <;> rfl

variable (workspace : Workspace) (name command : Value)
  (capturesOutput : Bool)

/-- What telling leaves alone, is left alone by resolving. -/
theorem keeps_resolve_of_tell {γ : Type} {view : Session → γ}
    (tells : ∀ notice, Keeps view (Work.tell notice)) :
    Keeps view workspace.resolve :=
  .bind (.ofExcept _) fun set =>
    .bind (.ofExcept _) fun _ =>
      .bind (tells _) fun _ => .bind (tells _) fun _ => .pure set

theorem keeps_resolve : Keeps Session.surroundings workspace.resolve :=
  workspace.keeps_resolve_of_tell .tell

theorem foretells_resolve :
    Foretells Eq workspace.resolve workspace.resolve := by
  refine .bind (.ofExcept _) ?_
  rintro set _ rfl
  refine .bind (.ofExcept _) ?_
  rintro holds _ rfl
  exact .bind (.tell _) fun _ _ _ => .bind (.tell _) fun _ _ _ => .pure rfl

variable {workspace name} {provisioner : Provisioner}
  {set : DependencySet}

/-- What the descriptor resolves to on the host is what the workspace resolves. -/
theorem perform_resolve
    (resolves : workspace.descriptor.resolveOn workspace.host = .ok set)
    (session : Session) :
    ∃ after,
      workspace.resolve.perform session = (.ok set, after) ∧
        after.surroundings = session.surroundings := by
  have kept := workspace.keeps_resolve session
  have asksCondition := resolves
  rw [Descriptor.resolveOn] at asksCondition
  cases condition :
      workspace.descriptor.condition.holdsOn workspace.host with
  | error failure =>
      rw [condition] at asksCondition
      cases asksCondition
  | ok holds =>
      refine ⟨_, Prod.ext ?_ rfl, kept⟩
      rw [resolve, resolves]
      show
        (((Work.ofExcept
            (workspace.descriptor.condition.holdsOn workspace.host) >>= _) :
          Work DependencySet).perform session).1 = _
      rw [condition]
      rfl

/-- How the resolving ends does not depend on the session. -/
theorem fst_perform_resolve (workspace : Workspace) (session : Session) :
    (workspace.resolve.perform session).1 =
      workspace.descriptor.resolveOn workspace.host := by
  cases resolves : workspace.descriptor.resolveOn workspace.host with
  | error failure =>
      rw [resolve, resolves]
      rfl
  | ok set =>
      obtain ⟨after, performs, _⟩ := perform_resolve resolves session
      rw [performs]

/-- A workspace hands what it resolves to the provisioner that is asked for. -/
theorem perform_provision
    (asked : workspace.provisioner name = .ok provisioner)
    (resolves : workspace.descriptor.resolveOn workspace.host = .ok set)
    (command : Value) (capturesOutput : Bool) (session : Session) :
    ∃ before,
      before.surroundings = session.surroundings ∧
        (workspace.provision name command capturesOutput).perform session =
          (provisioner.provision set command capturesOutput).perform
            before := by
  obtain ⟨before, performs, same⟩ := perform_resolve resolves session
  refine ⟨before, same, ?_⟩
  rw [provision, asked]
  exact perform_bind_of_ok performs _

/-- Without a provisioner or without a set a workspace can only fail. -/
theorem asked_or_fails
    (workspace : Workspace) (name command : Value) (capturesOutput : Bool)
    (session : Session) :
    (∃ provisioner set,
      workspace.provisioner name = .ok provisioner ∧
        workspace.descriptor.resolveOn workspace.host = .ok set) ∨
      ∃ failure after,
        (workspace.provision name command capturesOutput).perform session =
            (.error failure, after) ∧
          failure.IsOwn ∧ after.surroundings = session.surroundings := by
  cases asked : workspace.provisioner name with
  | error failure =>
      refine .inr ⟨failure, session, ?_, ?_, rfl⟩
      · rw [provision, asked]
        rfl
      · exact workspace.failsOwn_provisioner name failure asked
  | ok provisioner =>
      cases resolves : workspace.descriptor.resolveOn workspace.host with
      | ok set => exact .inl ⟨provisioner, set, rfl, rfl⟩
      | error failure =>
          refine .inr ⟨failure, session, ?_, ?_, rfl⟩
          · rw [provision, asked]
            show
              (((Work.ofExcept
                  (workspace.descriptor.resolveOn workspace.host) >>= _) >>=
                _ : Work Handle).perform session) = _
            rw [resolves]
            rfl
          · exact
              workspace.descriptor.failsOwn_resolveOn _ failure resolves

/-- A workspace comes to the start of the shell that is asked for. -/
structure Enters (workspace : Workspace) (name command : Value)
    (files : Files.Tree) (provisioner : Provisioner) (set : DependencySet)
    (text : String) (words : List Value) (line : Spelling)
    (after : Files.Tree) : Prop where
  asked : workspace.provisioner name = .ok provisioner
  resolves : workspace.descriptor.resolveOn workspace.host = .ok set
  isNix : provisioner.kind = .nix
  enters : provisioner.Enters set command files text words line after

/--
A workspace comes to the start of the shell, or starts nothing.  Then it does not fail
for the build orchestrator, and where the shell was asked for it fails.
-/
theorem enters_or_starts_nothing
    (isReal : workspace.isDryRun = false) (name command : Value)
    (capturesOutput : Bool) (session : Session) :
    (∃ provisioner set text words line files,
      workspace.Enters name command session.files provisioner set text words
        line files) ∨
      ∃ result after,
        (workspace.provision name command capturesOutput).perform session =
            (result, after) ∧
          session.Continues [] after ∧ NativeDeps.FailsOwn result ∧
          ∀ provisioner,
            workspace.provisioner name = .ok provisioner →
              provisioner.kind = .nix →
                ∃ failure, result = .error failure := by
  rcases workspace.asked_or_fails name command capturesOutput session with
    ⟨provisioner, set, asked, resolves⟩ | ⟨failure, after, fails, isOwn, same⟩
  · obtain ⟨before, same, performs⟩ :=
      perform_provision asked resolves command capturesOutput session
    have sameFiles : before.files = session.files := congrArg Prod.fst same
    have provisionerReal : provisioner.isDryRun = false :=
      (eq_of_provisioner asked).2.trans isReal
    rw [performs]
    rcases Provisioner.provision_cases provisionerReal set command
        capturesOutput before with
      ⟨text, words, line, files, isNix, enters⟩ |
        ⟨result, after, provides, continues, failsOwn, fails⟩
    · rw [sameFiles] at enters
      exact
        .inl
          ⟨provisioner, set, text, words, line, files, asked, resolves, isNix,
            enters⟩
    · refine
        .inr
          ⟨result, after, provides,
            (Session.Continues.of_surroundings_eq same).trans continues,
            failsOwn, ?_⟩
      intro other otherAsked isNix
      rw [asked] at otherAsked
      rw [Except.ok.inj otherAsked] at fails
      exact fails isNix
  · exact
      .inr
        ⟨.error failure, after, fails, .of_surroundings_eq same,
          .error isOwn, fun _ _ _ => ⟨failure, rfl⟩⟩

variable {session : Session} {command : Value} {text : String}
  {words : List Value} {line : Spelling} {files : Files.Tree}

/-- From the start of the shell on, a workspace starts it and nothing else. -/
theorem continues_of_enters
    (isReal : workspace.isDryRun = false)
    (enters :
      workspace.Enters name command session.files provisioner set text words
        line files)
    (capturesOutput : Bool) :
    session.Continues [⟨⟨words, workspace.directory, capturesOutput⟩, files⟩]
      ((workspace.provision name command capturesOutput).perform
        session).2 := by
  rcases enters with ⟨asked, resolves, isNix, enters⟩
  rcases eq_of_provisioner asked with ⟨sameDirectory, sameDryness⟩
  obtain ⟨before, same, performs⟩ :=
    perform_provision asked resolves command capturesOutput session
  have sameFiles : before.files = session.files := congrArg Prod.fst same
  rw [← sameFiles] at enters
  have continues :=
    Provisioner.continues_provideShell (sameDryness.trans isReal) enters
      capturesOutput
  rw [sameDirectory] at continues
  rw [performs, Provisioner.provision_of_nix isNix]
  exact (Session.Continues.of_surroundings_eq same).trans continues

/-- From the start of the shell on, the next outcome decides. -/
theorem counts_of_enters
    (isReal : workspace.isDryRun = false) {executable : Value}
    (enters :
      workspace.Enters name command session.files provisioner set text words
        line files)
    (starts : Provisioner.executableOf words = .ok executable)
    (capturesOutput : Bool) :
    ∃ result,
      (session.outcomes.headD .quiet).Counts executable result ∧
        ((workspace.provision name command capturesOutput).perform
            session).1 =
          result.map (provisioner.shellHandle set) := by
  rcases enters with ⟨asked, resolves, isNix, enters⟩
  rcases eq_of_provisioner asked with ⟨_, sameDryness⟩
  obtain ⟨before, same, performs⟩ :=
    perform_provision asked resolves command capturesOutput session
  have sameFiles : before.files = session.files := congrArg Prod.fst same
  have sameOutcomes : before.outcomes = session.outcomes :=
    congrArg (·.2.1) same
  rw [← sameFiles] at enters
  rw [performs, Provisioner.provision_of_nix isNix, ← sameOutcomes]
  exact
    Provisioner.counts_provideShell (sameDryness.trans isReal) enters starts
      capturesOutput

/-- A dry run asks for the same provisioner and resolves the same set. -/
theorem provision_dry
    (workspace : Workspace) (name command : Value)
    (capturesOutput : Bool) :
    workspace.dry.provision name command capturesOutput =
      Work.ofExcept (workspace.provisioner name) >>= fun provisioner =>
        workspace.resolve >>= fun set =>
          provisioner.dry.provision set command capturesOutput := by
  rw [provision, provisioner_dry, ofExcept_map_bind]
  rfl

theorem keeps_dry_provision
    (workspace : Workspace) (name command : Value)
    (capturesOutput : Bool) :
    Keeps Session.surroundings
      (workspace.dry.provision name command capturesOutput) := by
  rw [provision_dry]
  exact
    .bind (.ofExcept _) fun provisioner =>
      .bind workspace.keeps_resolve fun set =>
        provisioner.keeps_dry_provision set command capturesOutput

theorem foretells_provision
    (workspace : Workspace) (name command : Value)
    (capturesOutput : Bool) :
    Foretells Eq (workspace.dry.provision name command capturesOutput)
      (workspace.provision name command capturesOutput) := by
  rw [provision_dry, provision]
  refine .bind (.ofExcept _) ?_
  rintro provisioner _ rfl
  refine .bind workspace.foretells_resolve ?_
  rintro set _ rfl
  exact provisioner.foretells_provision set command capturesOutput

theorem continues_provision
    (workspace : Workspace) (name command : Value)
    (capturesOutput : Bool) :
    Continues (workspace.provision name command capturesOutput) :=
  .bind (Keeps.ofExcept _).continues fun provisioner =>
    .bind workspace.keeps_resolve.processes.continues fun set =>
      provisioner.continues_provision set command capturesOutput

/-- What a workspace writes for a name, if there is a provisioner and a set. -/
def draft? (workspace : Workspace) (name : Value) : Option Draft :=
  match workspace.provisioner name,
    workspace.descriptor.resolveOn workspace.host with
  | .ok provisioner, .ok set => provisioner.draft? set
  | _, _ => none

theorem draft?_eq_some_iff {draft : Draft} :
    workspace.draft? name = some draft ↔
      ∃ provisioner set,
        workspace.provisioner name = .ok provisioner ∧
          workspace.descriptor.resolveOn workspace.host = .ok set ∧
          provisioner.draft? set = some draft := by
  rw [draft?]
  cases workspace.provisioner name with
  | error failure => simp
  | ok provisioner =>
      cases workspace.descriptor.resolveOn workspace.host <;> simp

theorem delivers_provision
    {draft : Draft} (drafts : workspace.draft? name = some draft)
    (command : Value) (capturesOutput : Bool) :
    Delivers draft (workspace.provision name command capturesOutput) := by
  obtain ⟨provisioner, set, asked, resolves, drafts⟩ :=
    draft?_eq_some_iff.1 drafts
  obtain ⟨isReal, drafts⟩ := Provisioner.draft?_eq_some_iff.1 drafts
  intro session
  obtain ⟨before, same, performs⟩ :=
    perform_provision asked resolves command capturesOutput session
  have delivers :=
    Provisioner.delivers_provision isReal drafts command capturesOutput before
  rw [← performs, show before.files = session.files from
    congrArg Prod.fst same] at delivers
  exact delivers

theorem keeps_files_provision
    (drafts : workspace.draft? name = none) (command : Value)
    (capturesOutput : Bool) :
    Keeps Session.files
      (workspace.provision name command capturesOutput) := by
  intro session
  rcases workspace.asked_or_fails name command capturesOutput session with
    ⟨provisioner, set, asked, resolves⟩ | ⟨failure, after, fails, _, same⟩
  · rw [draft?, asked, resolves] at drafts
    obtain ⟨before, same, performs⟩ :=
      perform_provision asked resolves command capturesOutput session
    have kept :=
      Provisioner.keeps_files_provision drafts command capturesOutput before
    rw [performs, kept]
    exact congrArg Prod.fst same
  · rw [fails]
    exact congrArg Prod.fst same

theorem keeps_summary (workspace : Workspace) :
    Keeps Session.surroundings workspace.summary :=
  .bind workspace.keeps_resolve fun _ =>
    .bind (.ofExcept _) fun _ => .pure _

end Workspace

end NativeDeps
