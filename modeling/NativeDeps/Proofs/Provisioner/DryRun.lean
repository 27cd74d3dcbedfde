import NativeDeps.Proofs.Provisioner.Provision
import NativeDeps.Proofs.Session.Foretelling

/-!
# Provisions in a dry run

Writing and running are the only steps of a provision that depend on whether it is
meant.  In a dry run both change nothing but what is told, and both foretell what they
would come to; every other step is the same, so a dry run foretells the whole provision.
-/

namespace NativeDeps

namespace Provisioner

open Work

/-- The provisioner that only tells what this one would do. -/
def dry (provisioner : Provisioner) : Provisioner :=
  { provisioner with isDryRun := true }

variable (provisioner : Provisioner) (set : DependencySet)
  (command : Value) (capturesOutput : Bool)

theorem keeps_dry_write (path : Files.Path) (content : Value) :
    Keeps Session.surroundings (provisioner.dry.write path content) :=
  .tell _

theorem keeps_dry_run
    (words : List Value) (directory : Option Files.Path) :
    Keeps Session.surroundings
      (provisioner.dry.run words directory capturesOutput) :=
  keeps_run_of_isDryRun rfl _ _ _

theorem keeps_dry_provideShell :
    Keeps Session.surroundings
      (provisioner.dry.provideShell set command capturesOutput) := by
  rw [provideShell_eq]
  refine .bind (.ofExcept _) fun content => ?_
  refine .bind (provisioner.keeps_dry_write _ content) fun _ => ?_
  refine .bind (.checkPath _) fun _ => .bind .files fun tree => ?_
  refine .bind (.ofExcept _) fun words => .bind (.ofExcept _) fun _ => ?_
  refine .bind (.ofExcept _) fun text => .bind (.tell _) fun _ => ?_
  exact .bind (provisioner.keeps_dry_run _ words none) fun _ => .pure _

theorem keeps_dry_provideManifest :
    Keeps Session.surroundings
      (provisioner.dry.provideManifest set command) := by
  have keepsWriting :
      Keeps Session.surroundings (provisioner.dry.writeManifest set) :=
    .bind (.ofExcept _) fun path =>
      .bind (.ofExcept _) fun content =>
        .bind (provisioner.keeps_dry_write path content) fun _ =>
          .bind (.tell _) fun _ => .pure _
  rw [provideManifest_eq]
  exact .ite (.bind (.tell _) fun _ => keepsWriting) keepsWriting

/-- A provision that is not meant changes nothing but what is told. -/
theorem keeps_dry_provision :
    Keeps Session.surroundings
      (provisioner.dry.provision set command capturesOutput) := by
  rw [provision]
  split
  · exact provisioner.keeps_dry_provideShell set command capturesOutput
  · exact provisioner.keeps_dry_provideManifest set command

theorem foretells_write (path : Files.Path) (content : Value) :
    Foretells Eq (provisioner.dry.write path content)
      (provisioner.write path content) := by
  refine
    .of_results (provisioner.keeps_dry_write path content).processes.directory
      (provisioner.keeps_write path content).directory ?_
  intro session later value succeeds
  exact ⟨(), rfl, rfl⟩

/-- A process that ended well had the status zero. -/
theorem gives_settle (words : List Value) (outcome : Outcome) :
    Gives (fun completion => completion.status = 0)
      (settle words capturesOutput outcome) := by
  cases outcome with
  | notFound => exact .bind fun _ => .throw _
  | denied => exact .bind fun _ => .throw _
  | interrupted => exact .throw _
  | exited status output errors =>
      show Gives _ (if status = some 0 then _ else _)
      apply Gives.ite
      · exact .ite (.bind fun _ => .pure rfl) (.pure rfl)
      · exact .bind fun _ => .bind fun _ => .bind fun _ => .throw _

theorem foretells_run
    (words : List Value) (directory : Option Files.Path) :
    Foretells (fun completion other => completion.status = other.status)
      (provisioner.dry.run words directory capturesOutput)
      (provisioner.run words directory capturesOutput) := by
  refine
    .of_results
      (provisioner.keeps_dry_run capturesOutput words
        directory).processes.directory
      (provisioner.continues_run words directory
        capturesOutput).keepsDirectory ?_
  intro session later completion succeeds
  have statusZero :
      Gives (fun completion => completion.status = 0)
        (provisioner.run words directory capturesOutput) := by
    rw [run]
    refine .bind fun line => .bind fun _ => .bind fun _ => ?_
    apply Gives.ite
    · exact .bind fun _ => .pure rfl
    · exact .bind fun outcome => gives_settle capturesOutput words outcome
  cases told : lineOf words with
  | error failure =>
      rw [run, told] at succeeds
      cases succeeds
  | ok line =>
      have isDry : provisioner.dry.isDryRun = true := rfl
      have succeedsDry :=
        perform_run_of_isDryRun isDry told directory capturesOutput session
      exact
        ⟨_, succeedsDry, (statusZero later completion succeeds).symm⟩

theorem foretells_checkPath (path : Files.Path) :
    Foretells Eq (Work.checkPath path) (Work.checkPath path) := by
  refine .of_results (.checkPath path) (.checkPath path) ?_
  rintro session later ⟨⟩ succeeds
  rcases isUsable_or_fails path with usable | ⟨failure, fails⟩
  · exact ⟨(), congrArg Prod.fst (perform_checkPath usable session), rfl⟩
  · rw [fails later.files later rfl] at succeeds
    cases succeeds

theorem foretells_provideShell :
    Foretells Eq (provisioner.dry.provideShell set command capturesOutput)
      (provisioner.provideShell set command capturesOutput) := by
  rw [provideShell_eq, provideShell_eq]
  refine .bind (.ofExcept (provisioner.content set)) ?_
  rintro content _ rfl
  refine .bind (provisioner.foretells_write _ content) fun _ _ _ => ?_
  refine .bind (foretells_checkPath _) fun _ _ _ => .bind .files ?_
  intro tree other sameDirectory
  rw [sameDirectory]
  refine .bind (.ofExcept (provisioner.shellCommand _ command)) ?_
  rintro words _ rfl
  refine .bind (.ofExcept (executableOf words)) ?_
  rintro executable _ rfl
  refine .bind (.ofExcept executable.written) ?_
  rintro text _ rfl
  refine .bind (.tell _) fun _ _ _ => ?_
  refine .bind (provisioner.foretells_run _ words none) ?_
  intro completion other sameStatus
  rw [sameStatus]
  exact .pure rfl

theorem foretells_provideManifest :
    Foretells Eq (provisioner.dry.provideManifest set command)
      (provisioner.provideManifest set command) := by
  have foretellsWriting :
      Foretells Eq (provisioner.dry.writeManifest set)
        (provisioner.writeManifest set) := by
    refine .bind (.ofExcept provisioner.manifestPath) ?_
    rintro path _ rfl
    refine .bind (.ofExcept (provisioner.content set)) ?_
    rintro content _ rfl
    refine .bind (provisioner.foretells_write path content) fun _ _ _ => ?_
    exact .bind (.tell _) fun _ _ _ => .pure rfl
  rw [provideManifest_eq, provideManifest_eq]
  exact
    .ite (.bind (.tell _) fun _ _ _ => foretellsWriting) foretellsWriting

/-- A provision that is not meant foretells the handle of one that is. -/
theorem foretells_provision :
    Foretells Eq (provisioner.dry.provision set command capturesOutput)
      (provisioner.provision set command capturesOutput) := by
  cases kind : provisioner.kind with
  | nix =>
      have dryKind : provisioner.dry.kind = .nix := kind
      rw [provision_of_nix kind, provision_of_nix dryKind]
      exact provisioner.foretells_provideShell set command capturesOutput
  | manifest =>
      have dryKind : provisioner.dry.kind = .manifest := kind
      rw [provision_of_manifest kind, provision_of_manifest dryKind]
      exact provisioner.foretells_provideManifest set command

end Provisioner

end NativeDeps
