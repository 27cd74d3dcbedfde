import NativeDeps.Proofs.Provisioner.DryRun

/-!
# Drafts of provisions

What a provision is about to write, and where, is known before it touches a file.  If it
is known, the provision writes it and then leaves the files alone, and there is a handle
only when the writing succeeded.  If nothing is to be written, because the run is dry or
because the settings do not say what, the provision touches no file.
-/

namespace NativeDeps

open Work

/-- Something that is about to be written, and the path of its file. -/
structure Draft where
  path : Files.Path
  content : Value

namespace Provisioner

/-- What a provisioner is about to write for a set. -/
def draft (provisioner : Provisioner) (set : DependencySet) :
    Except Failure Draft := do
  let path ← provisioner.target
  return ⟨path, ← provisioner.content set⟩

variable {provisioner : Provisioner} {set : DependencySet} {draft : Draft}

theorem target_of_nix (isNix : provisioner.kind = .nix) :
    provisioner.target = .ok provisioner.expressionPath := by
  rw [target, isNix]

theorem target_of_manifest (isManifest : provisioner.kind = .manifest) :
    provisioner.target = provisioner.manifestPath := by
  rw [target, isManifest]

/-- A manifest has no halves of characters. -/
theorem content_of_manifest (isManifest : provisioner.kind = .manifest) :
    provisioner.content set = .ok (.text (Manifest.text set)) := by
  rw [content_eq_ok_iff]
  refine ⟨Manifest.text set, ?_, (Value.ofSpelling_ofText _).symm⟩
  rw [render, isManifest]

theorem draft_eq_ok_iff :
    provisioner.draft set = .ok draft ↔
      provisioner.target = .ok draft.path ∧
        provisioner.content set = .ok draft.content := by
  rcases draft with ⟨path, content⟩
  rw [Provisioner.draft]
  cases targeted : provisioner.target with
  | error failure => exact iff_of_false nofun fun both => nomatch both.1
  | ok place =>
      cases contains : provisioner.content set with
      | error failure => exact iff_of_false nofun fun both => nomatch both.2
      | ok value =>
          show Except.ok (Draft.mk place value) = _ ↔ _
          simp

end Provisioner

namespace Work

variable {α β : Type} {provisioner : Provisioner} {draft : Draft}

/--
A piece of work writes a draft and then leaves the files alone, and it gives a value only
if the draft was written.
-/
def Delivers (draft : Draft) (task : Work α) : Prop :=
  ∀ session,
    ∃ written,
      ComesTo (writeValue draft.path draft.content) session.files written
          (task.perform session).2.files ∧
        ∀ value,
          (task.perform session).1 = .ok value → written = .ok ()

namespace Delivers

theorem write
    (isReal : provisioner.isDryRun = false) {rest : Unit → Work α}
    (keeps : ∀ value, Keeps Session.files (rest value)) :
    Delivers draft (provisioner.write draft.path draft.content >>= rest) := by
  intro session
  obtain ⟨written, after, comesTo, _⟩ :=
    exists_lands session.files draft.path draft.content
  have performs := comesTo session rfl
  refine ⟨written, ?_, ?_⟩
  · rw [Keeps.perform_bind keeps, Provisioner.write, isReal,
      if_neg Bool.false_ne_true,
      Keeps.perform_bind fun _ => .ofSurroundings (.tell _), performs]
    exact comesTo
  · intro value gives
    cases written with
    | ok _ => rfl
    | error failure =>
        rw [Provisioner.write, isReal, if_neg Bool.false_ne_true,
          perform_bind_of_error (perform_bind_of_error performs _)] at gives
        cases gives

/-- What is told before changes nothing. -/
theorem tell
    {task : Work α} (delivers : Delivers draft task) (notice : Notice) :
    Delivers draft (Work.tell notice >>= fun _ => task) := by
  intro session
  rw [perform_bind_of_ok (perform_tell notice session)]
  exact delivers (session.add (.notice notice))

/-- What is done behind it gives a value only if the draft was written. -/
theorem bind
    {task : Work β} (delivers : Delivers draft task) {rest : β → Work α}
    (keeps : ∀ value, Keeps Session.files (rest value)) :
    Delivers draft (task >>= rest) := by
  intro session
  obtain ⟨written, comesTo, onlyIf⟩ := delivers session
  refine ⟨written, ?_, ?_⟩
  · rwa [Keeps.perform_bind keeps]
  · intro value gives
    rcases performed : task.perform session with ⟨failure | middle, after⟩
    · rw [perform_bind_of_error performed] at gives
      cases gives
    · exact onlyIf middle (congrArg Prod.fst performed)

end Delivers

end Work

namespace Provisioner

variable {provisioner : Provisioner} {set : DependencySet} {draft : Draft}

/-- A provision whose draft is known delivers it. -/
theorem delivers_provision
    (isReal : provisioner.isDryRun = false)
    (drafts : provisioner.draft set = .ok draft) (command : Value)
    (capturesOutput : Bool) :
    Delivers draft (provisioner.provision set command capturesOutput) := by
  obtain ⟨targeted, contains⟩ := draft_eq_ok_iff.1 drafts
  cases kind : provisioner.kind with
  | nix =>
      rw [target_of_nix kind] at targeted
      rw [provision_of_nix kind, provideShell_eq, contains,
        Except.ok.inj targeted]
      have keepsEntering :
          Keeps Session.files
            (provisioner.enterShell set command capturesOutput) :=
        keeps_enterShell_of (fun _ => .ofSurroundings (.tell _)) .call_files
          provisioner set command capturesOutput
      exact .write isReal fun _ => .bind (.checkPath _) fun _ => keepsEntering
  | manifest =>
      rw [target_of_manifest kind] at targeted
      have delivers : Delivers draft (provisioner.writeManifest set) := by
        rw [writeManifest, targeted, contains]
        exact
          .write isReal fun _ =>
            .bind (.ofSurroundings (.tell _)) fun _ => .pure _
      rw [provision_of_manifest kind, provideManifest_eq]
      split
      · exact delivers.tell .commandIgnored
      · exact delivers

/-- A manifest that was written is provided. -/
theorem exists_handle_of_manifest
    (isManifest : provisioner.kind = .manifest)
    (isReal : provisioner.isDryRun = false)
    (drafts : provisioner.draft set = .ok draft) (command : Value)
    (capturesOutput : Bool) {session : Session} {after : Files.Tree}
    (writes :
      ComesTo (writeValue draft.path draft.content) session.files (.ok ())
        after) :
    ∃ handle,
      ((provisioner.provision set command capturesOutput).perform
          session).1 =
        .ok handle := by
  obtain ⟨targeted, contains⟩ := draft_eq_ok_iff.1 drafts
  rw [target_of_manifest isManifest] at targeted
  have provides :
      ∀ session : Session,
        ComesTo (writeValue draft.path draft.content) session.files (.ok ())
            after →
          ∃ handle,
            ((provisioner.writeManifest set).perform session).1 =
              .ok handle := by
    intro session writes
    have writesDraft :
        (provisioner.write draft.path draft.content).perform session =
          (.ok (),
            ({ session with files := after } : Session).add
              (.notice (.wrote draft.path))) := by
      rw [write, isReal, if_neg Bool.false_ne_true,
        perform_bind_of_ok (writes session rfl)]
      rfl
    rw [writeManifest, targeted, contains]
    show
      ∃ handle,
        Prod.fst
            (perform (provisioner.write draft.path draft.content >>= _) _) =
          _
    rw [perform_bind_of_ok writesDraft]
    exact ⟨_, rfl⟩
  rw [provision_of_manifest isManifest, provideManifest_eq]
  split
  · rw [perform_bind_of_ok (perform_tell _ session)]
    exact provides _ writes
  · exact provides session writes

/-- A provision without a draft fails before it touches a file. -/
theorem fails_of_draft_eq_error
    {failure : Failure} (drafts : provisioner.draft set = .error failure)
    (command : Value) (capturesOutput : Bool) (session : Session) :
    ∃ after,
      (provisioner.provision set command capturesOutput).perform session =
          (.error failure, after) ∧
        after.files = session.files := by
  rw [Provisioner.draft] at drafts
  cases kind : provisioner.kind with
  | nix =>
      rw [target_of_nix kind] at drafts
      rw [provision_of_nix kind, provideShell_eq]
      cases contains : provisioner.content set with
      | error other =>
          rw [contains] at drafts
          cases drafts
          exact ⟨session, rfl, rfl⟩
      | ok content =>
          rw [contains] at drafts
          cases drafts
  | manifest =>
      rw [target_of_manifest kind] at drafts
      have fails :
          ∀ session,
            (provisioner.writeManifest set).perform session =
              (.error failure, session) := by
        intro session
        rw [writeManifest]
        cases targeted : provisioner.manifestPath with
        | error other =>
            rw [targeted] at drafts
            cases drafts
            rfl
        | ok path =>
            cases contains : provisioner.content set with
            | error other =>
                rw [targeted, contains] at drafts
                cases drafts
                rfl
            | ok content =>
                rw [targeted, contains] at drafts
                cases drafts
      rw [provision_of_manifest kind, provideManifest_eq]
      split
      · rw [perform_bind_of_ok (perform_tell _ session)]
        exact ⟨_, fails _, rfl⟩
      · exact ⟨_, fails _, rfl⟩

/-- What a provisioner writes for a set, if it is meant to write and the settings say what. -/
def draft? (provisioner : Provisioner) (set : DependencySet) :
    Option Draft :=
  if provisioner.isDryRun then none else (provisioner.draft set).toOption

theorem draft?_eq_some_iff :
    provisioner.draft? set = some draft ↔
      provisioner.isDryRun = false ∧ provisioner.draft set = .ok draft := by
  rw [draft?]
  cases provisioner.isDryRun with
  | true => simp
  | false => cases provisioner.draft set <;> simp [Except.toOption]

/-- A provision that is to write nothing touches no file. -/
theorem keeps_files_provision
    (drafts : provisioner.draft? set = none) (command : Value)
    (capturesOutput : Bool) :
    Keeps Session.files
      (provisioner.provision set command capturesOutput) := by
  cases isDry : provisioner.isDryRun with
  | true =>
      have dryProvisioner : provisioner.dry = provisioner := by
        rw [dry, ← isDry]
      rw [← dryProvisioner]
      exact
        .ofSurroundings
          (provisioner.keeps_dry_provision set command capturesOutput)
  | false =>
      intro session
      rw [draft?, isDry, if_neg Bool.false_ne_true] at drafts
      cases failed : provisioner.draft set with
      | error failure =>
          obtain ⟨after, performs, same⟩ :=
            fails_of_draft_eq_error failed command capturesOutput session
          rw [performs]
          exact same
      | ok draft =>
          rw [failed] at drafts
          cases drafts

end Provisioner

end NativeDeps
