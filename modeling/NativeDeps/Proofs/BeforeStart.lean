import NativeDeps.Proofs.Nix.WholeExpression
import NativeDeps.Proofs.ShellOutcome

/-!
# Provisions that fail before a start

A provision that fails and has started no process has taken no outcome, and of all files
it has touched at most the one that it was about to write.  As long as what it makes of
its settings can be written down, it has changed no file at all: there may only be
directories on the way to that file.  So when an expression has been written, a process
is started.

Three things are found out too late.  A text with halves of characters is found out when
the file has been emptied for it, and a file that takes only the beginning of a text when
that beginning stands there.  An executable with too many digits is found out when the
whole expression stands there.
-/

namespace NativeDeps

open Work

namespace Provisioner

variable {provisioner : Provisioner} {set : DependencySet}

/-- Whether the executable of the shell has no number with too many digits. -/
def HasShortExecutable (provisioner : Provisioner) : Prop :=
  ∀ executable,
    provisioner.setting "executable" (.text "nix-shell") = .ok executable →
      executable.holdsLong = false

/--
Whether what a provisioner makes of a set can be written down: there are no halves of
characters in what its expression is made of, its file can take the text, and the
executable of the shell is short.
-/
structure CanWrite (provisioner : Provisioner) (set : DependencySet)
    (files : Files.Tree) : Prop where
  noHalves :
    provisioner.kind = .nix →
      ∀ packages,
        provisioner.setting "package_set" (.text "<nixpkgs>") =
            .ok packages →
          packages.asText.IsWhole ∧ set.name.IsWhole ∧
            ∀ path ∈ set.attributePaths, path.IsWhole
  fits :
    ∀ path text,
      provisioner.target = .ok path →
        provisioner.content set = .ok (.text text) →
          files.cut? (path.location files.directory) text = none
  isShort : provisioner.kind = .nix → provisioner.HasShortExecutable

/-- What can be written down has no halves of characters. -/
theorem CanWrite.isWhole
    {files : Files.Tree} (writable : provisioner.CanWrite set files)
    {spelling : Spelling} {isBroken : spelling.text? = none}
    (contains :
      provisioner.content set = .ok (@Value.halves spelling isBroken)) :
    False := by
  cases kind : provisioner.kind with
  | manifest =>
      rw [content_of_manifest kind] at contains
      cases contains
  | nix =>
      obtain ⟨rendering, rendered, isHalves⟩ := content_eq_ok_iff.1 contains
      obtain ⟨packages, written, packagesSet, packagesWritten, rfl⟩ :=
        render_nix kind rendered
      obtain rfl := Value.eq_asText_of_written packagesWritten
      have isWhole :=
        (Nix.isWhole_expression _ set).2
          (writable.noHalves kind packages packagesSet)
      obtain ⟨text, same⟩ := Spelling.isWhole_iff.1 isWhole
      rw [same, Value.ofSpelling_ofText] at isHalves
      cases isHalves

end Provisioner

namespace Workspace

/-- A place is the one of the file that a provision is about to write. -/
def IsTarget (workspace : Workspace) (name : Value)
    (directory place : Files.Location) : Prop :=
  ∃ provisioner path,
    workspace.provisioner name = .ok provisioner ∧
      provisioner.target = .ok path ∧ place = path.location directory

/-- A place is on the way to the file that a provision is about to write. -/
def LeadsToTarget (workspace : Workspace) (name : Value)
    (directory place : Files.Location) : Prop :=
  ∃ provisioner path,
    workspace.provisioner name = .ok provisioner ∧
      provisioner.target = .ok path ∧
      path.parent.LeadsThrough directory place

/-- Whatever provisioner and set are asked for can be written down. -/
def CanWrite (workspace : Workspace) (name : Value) (files : Files.Tree) :
    Prop :=
  ∀ provisioner set,
    workspace.provisioner name = .ok provisioner →
      workspace.descriptor.resolveOn workspace.host = .ok set →
        provisioner.CanWrite set files

variable {workspace : Workspace} {name command : Value} {session : Session}
  {provisioner : Provisioner} {set : DependencySet} {draft : Draft}

/-- Where a draft was written and no process is started, the provision has not failed. -/
theorem exists_handle_of_writes
    (isReal : workspace.isDryRun = false)
    (commandShort : command.holdsLong = false)
    (asked : workspace.provisioner name = .ok provisioner)
    (resolves : workspace.descriptor.resolveOn workspace.host = .ok set)
    (isShort : provisioner.kind = .nix → provisioner.HasShortExecutable)
    (drafts : provisioner.draft set = .ok draft) {after : Files.Tree}
    (writes :
      ComesTo (writeValue draft.path draft.content) session.files (.ok ())
        after)
    {capturesOutput : Bool}
    (startsNothing :
      session.Continues []
        ((workspace.provision name command capturesOutput).perform
          session).2) :
    ∃ handle,
      ((workspace.provision name command capturesOutput).perform session).1 =
        .ok handle := by
  have provisionerReal : provisioner.isDryRun = false :=
    (eq_of_provisioner asked).2.trans isReal
  cases kind : provisioner.kind with
  | manifest =>
      obtain ⟨before, same, performs⟩ :=
        perform_provision asked resolves command capturesOutput session
      have sameFiles : before.files = session.files := congrArg Prod.fst same
      rw [← sameFiles] at writes
      rw [performs]
      exact
        Provisioner.exists_handle_of_manifest kind provisionerReal drafts
          command capturesOutput writes
  | nix =>
      obtain ⟨targeted, contains⟩ := Provisioner.draft_eq_ok_iff.1 drafts
      rw [Provisioner.target_of_nix kind] at targeted
      obtain ⟨executable, executableSet⟩ :=
        Provisioner.exists_setting_of_content kind contains "executable"
          (.text "nix-shell")
      have expression :
          workspace.WritesExpression name session provisioner set
            draft.content := by
        refine ⟨asked, kind, resolves, contains, ?_⟩
        rw [Except.ok.inj targeted, Provisioner.write, provisionerReal,
          if_neg Bool.false_ne_true,
          perform_bind_of_ok (writes session rfl)]
        rfl
      obtain ⟨text, words, line, files, enters⟩ :=
        enters_of_writesExpression isReal commandShort expression
          executableSet (isShort kind executable executableSet)
      have starts := continues_of_enters isReal enters capturesOutput
      cases startsNothing.own_eq starts

/-- A provision touches no file but its target, whatever becomes of it. -/
theorem changesOnly_target
    (workspace : Workspace) (name command : Value) (capturesOutput : Bool)
    (session : Session) :
    session.files.ChangesOnly
      (workspace.IsTarget name session.files.directory)
      (workspace.LeadsToTarget name session.files.directory)
      ((workspace.provision name command capturesOutput).perform
        session).2.files := by
  cases drafts : workspace.draft? name with
  | none =>
      rw [keeps_files_provision drafts command capturesOutput session]
      exact .refl _
  | some draft =>
      obtain ⟨written, comesTo, _⟩ :=
        delivers_provision drafts command capturesOutput session
      obtain ⟨provisioner, set, asked, _, drafts⟩ :=
        draft?_eq_some_iff.1 drafts
      obtain ⟨_, drafts⟩ := Provisioner.draft?_eq_some_iff.1 drafts
      obtain ⟨targeted, _⟩ := Provisioner.draft_eq_ok_iff.1 drafts
      refine comesTo.lands.changesOnly.mono ?_ ?_
      · rintro place rfl
        exact ⟨provisioner, draft.path, asked, targeted, rfl⟩
      · intro place leads
        exact ⟨provisioner, draft.path, asked, targeted, leads⟩

/-- What is left of a provision that failed and started no process. -/
theorem changesOnly_of_fails
    (commandShort : command.holdsLong = false)
    (writable : workspace.CanWrite name session.files)
    {capturesOutput : Bool}
    (startsNothing :
      session.Continues []
        ((workspace.provision name command capturesOutput).perform
          session).2)
    {failure : Failure}
    (fails :
      ((workspace.provision name command capturesOutput).perform
          session).1 =
        .error failure) :
    session.files.ChangesOnly Files.Tree.noTarget
      (workspace.LeadsToTarget name session.files.directory)
      ((workspace.provision name command capturesOutput).perform
        session).2.files := by
  cases drafts : workspace.draft? name with
  | none =>
      rw [keeps_files_provision drafts command capturesOutput session]
      exact .refl _
  | some draft =>
      obtain ⟨written, comesTo, _⟩ :=
        delivers_provision drafts command capturesOutput session
      obtain ⟨provisioner, set, asked, resolves, drafts⟩ :=
        draft?_eq_some_iff.1 drafts
      obtain ⟨isReal, drafts⟩ := Provisioner.draft?_eq_some_iff.1 drafts
      obtain ⟨targeted, contains⟩ := Provisioner.draft_eq_ok_iff.1 drafts
      have canWrite := writable provisioner set asked resolves
      have lands := comesTo.lands
      generalize draft.content = content at contains lands
      cases lands with
      | stopped _ changes =>
          exact
            changes.mono (fun _ target => target) fun place leads =>
              ⟨provisioner, draft.path, asked, targeted, leads⟩
      | written fits fills =>
          have workspaceReal : workspace.isDryRun = false :=
            (eq_of_provisioner asked).2.symm.trans isReal
          obtain ⟨handle, gives⟩ :=
            exists_handle_of_writes workspaceReal commandShort asked resolves
              canWrite.isShort drafts comesTo startsNothing
          rw [gives] at fails
          cases fails
      | brokenOff cut fills =>
          rw [canWrite.fits draft.path _ targeted contains] at cut
          cases cut
      | emptied isBroken fills => exact (canWrite.isWhole contains).elim

/--
A provision that fails and starts no process takes no outcome and touches no file but its
target, and if what it makes of its settings can be written down, it changes no file.
After a written expression a process is started, unless the executable is too long.
-/
theorem failure_before_start_changes_no_file
    (workspace : Workspace) (name : Value) {command : Value}
    (commandShort : command.holdsLong = false) (capturesOutput : Bool)
    (session : Session) :
    ∃ own result after,
      (workspace.provision name command capturesOutput).perform session =
          (result, after) ∧
        session.Continues own after ∧
        (∀ failure,
          result = .error failure →
            own = [] →
              after.outcomes = session.outcomes ∧
                session.files.ChangesOnly
                  (workspace.IsTarget name session.files.directory)
                  (workspace.LeadsToTarget name session.files.directory)
                  after.files ∧
                (workspace.CanWrite name session.files →
                  session.files.ChangesOnly Files.Tree.noTarget
                    (workspace.LeadsToTarget name session.files.directory)
                    after.files)) ∧
        (workspace.isDryRun = false →
          ∀ provisioner set content,
            workspace.WritesExpression name session provisioner set content →
              provisioner.HasShortExecutable → ∃ start, own = [start]) := by
  obtain ⟨own, continues⟩ :=
    workspace.continues_provision name command capturesOutput session
  refine ⟨own, _, _, rfl, continues, ?_, ?_⟩
  · rintro failure fails rfl
    refine ⟨continues.outcomes, ?_, fun writable => ?_⟩
    · exact
        workspace.changesOnly_target name command capturesOutput session
    · exact changesOnly_of_fails commandShort writable continues fails
  · intro isReal provisioner set content expression isShort
    obtain ⟨executable, executableSet⟩ :=
      Provisioner.exists_setting_of_content expression.isNix
        expression.rendered "executable" (.text "nix-shell")
    obtain ⟨text, words, line, files, enters⟩ :=
      enters_of_writesExpression isReal commandShort expression executableSet
        (isShort executable executableSet)
    exact
      ⟨_, continues.own_eq (continues_of_enters isReal enters capturesOutput)⟩

/-- A workspace whose manifest lies below another file, and the way there leads elsewhere. -/
def withManifestBelowFile : Workspace :=
  .withSettings
    [(.text "manifest",
      .mapping [(.text "filename", .text "new/../../taken/set.yaml")])]

/-- A home with a file that is taken. -/
def takenHome : Session where
  files :=
    { entries :=
        [(["home"], .directory), (["home", "taken"], .file (.text "taken"))]
      directory := ["home"] }

/-- The directories on the way are made, then the file stands in the way. -/
theorem failure_below_file_changes_no_file :
    let ended :=
      (withManifestBelowFile.provision (.text "manifest") .null false).perform
        takenHome
    ended.1 = .error (.files .exists "work/new/../../taken") ∧
      ended.2.starts.length = 0 ∧
      ended.2.files.get? ["home", "work", "new"] = some .directory ∧
      takenHome.files.ChangesOnly Files.Tree.noTarget
        (withManifestBelowFile.LeadsToTarget (.text "manifest")
          takenHome.files.directory)
        ended.2.files := by
  have fails :
      ((withManifestBelowFile.provision (.text "manifest") .null
            false).perform takenHome).1 =
        .error (.files .exists "work/new/../../taken") := by
    decide +kernel
  have startsNothing :
      ((withManifestBelowFile.provision (.text "manifest") .null
            false).perform takenHome).2.starts.length = 0 := by
    decide +kernel
  have canWrite :
      withManifestBelowFile.CanWrite (.text "manifest") takenHome.files := by
    rintro provisioner set ⟨⟩ _
    exact ⟨nofun, fun _ _ _ _ => rfl, nofun⟩
  refine ⟨fails, startsNothing, by decide +kernel, ?_⟩
  have nullShort : Value.null.holdsLong = false := rfl
  obtain ⟨own, result, after, performs, continues, ends, _⟩ :=
    failure_before_start_changes_no_file withManifestBelowFile
      (.text "manifest") nullShort false takenHome
  rw [performs] at fails startsNothing ⊢
  rw [continues.starts, List.length_append, Nat.add_eq_zero_iff] at startsNothing
  obtain ⟨_, _, changes⟩ :=
    ends _ fails (List.length_eq_zero_iff.1 startsNothing.2)
  exact changes canWrite

/-- A workspace whose package set is a text with half of a character. -/
def withHalvesInPackages : Workspace :=
  .withSettings
    [(.text "nix", .mapping [(.text "package_set", .ofSpelling .lone)])]

/-- A home with an expression from before, in a file that takes few bytes. -/
def homeWithExpression (limits : List (Files.Location × Nat)) : Session where
  files :=
    { entries :=
        [(["home"], .directory), (["home", "work"], .directory),
          (["home", "work", "shell.nix"], .file (.text "from before"))]
      directory := ["home"]
      limits := limits }

/--
An executable with too many digits leaves a new expression behind, a package set with half
of a character empties an old one, and a disk that is full keeps the beginning of a new
one in its place.  None starts a process.
-/
theorem late_failures_change_files :
    let place : Files.Location := ["home", "work", "shell.nix"]
    let old := homeWithExpression []
    let narrow := homeWithExpression [(place, 4)]
    let long :=
      (withLongExecutable.provision (.text "nix") .null false).perform
        (.inEmptyHome [])
    let halved :=
      (withHalvesInPackages.provision (.text "nix") .null false).perform old
    let full :=
      ((withSettings []).provision (.text "nix") .null false).perform narrow
    (long.1 = .error .longNumber ∧ long.2.starts.length = 0 ∧
        (Session.inEmptyHome []).files.get? place = none ∧
        (long.2.files.get? place).isSome = true) ∧
      (old.files.get? place = some (.file (.text "from before")) ∧
        halved.1 = .error .unencodable ∧ halved.2.starts.length = 0 ∧
        halved.2.files.get? place = some (.file (.text ""))) ∧
      narrow.files.get? place = some (.file (.text "from before")) ∧
        full.1 = .error .noSpace ∧ full.2.starts.length = 0 ∧
        full.2.files.get? place = some (.file (.text "with")) := by
  decide +kernel

end Workspace

end NativeDeps
