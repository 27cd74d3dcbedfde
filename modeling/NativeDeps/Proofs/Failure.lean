import NativeDeps.Proofs.Session.Work
import NativeDeps.Workspace

/-!
# Failures of the program's own

Only the build orchestrator makes a provisioning fail.  Whatever is asked of values, of
a configuration or of a descriptor fails, if it fails, with a failure of the program's
own, and so does every piece of work that starts no process.
-/

namespace NativeDeps

/-- Whether a failure is the program's own and not one of the build orchestrator. -/
def Failure.IsOwn : Failure → Prop
  | .provisioning _ => False
  | _ => True

/-- Whether a result, if it is a failure, is one of the program's own. -/
def FailsOwn {α : Type} (result : Except Failure α) : Prop :=
  ∀ failure, result = .error failure → failure.IsOwn

namespace FailsOwn

variable {α β : Type}

theorem ok (value : α) : FailsOwn (.ok value) := by
  intro failure same
  cases same

theorem error {failure : Failure} (isOwn : failure.IsOwn) :
    FailsOwn (.error failure : Except Failure α) := by
  intro other same
  cases same
  exact isOwn

theorem bind
    {result : Except Failure α} {next : α → Except Failure β}
    (first : FailsOwn result) (rest : ∀ value, FailsOwn (next value)) :
    FailsOwn (result >>= next) := by
  cases result with
  | error failure => exact error (first failure rfl)
  | ok value => exact rest value

theorem map
    {result : Except Failure α} (own : FailsOwn result) (change : α → β) :
    FailsOwn (result.map change) := by
  cases result with
  | error failure => exact error (own failure rfl)
  | ok value => exact ok _

theorem mapM
    {change : α → Except Failure β} (own : ∀ value, FailsOwn (change value))
    (values : List α) : FailsOwn (values.mapM change) := by
  induction values with
  | nil => exact ok _
  | cons value rest induction =>
      rw [List.mapM_cons]
      exact bind (own value) fun _ => bind induction fun _ => ok _

end FailsOwn

namespace Work

variable {α β : Type}

/-- Whether a piece of work, if it fails, fails with a failure of the program's own. -/
def FailsOwn (task : Work α) : Prop :=
  ∀ session, NativeDeps.FailsOwn (task.perform session).1

namespace FailsOwn

theorem pure (value : α) : FailsOwn (Pure.pure value : Work α) :=
  fun _ => .ok value

theorem throw {failure : Failure} (isOwn : failure.IsOwn) :
    FailsOwn (MonadExcept.throw failure : Work α) :=
  fun _ => .error isOwn

theorem ofExcept
    {result : Except Failure α} (own : NativeDeps.FailsOwn result) :
    FailsOwn (Work.ofExcept result) :=
  fun _ => own

theorem tell (notice : Notice) : FailsOwn (Work.tell notice) :=
  fun _ => .ok ()

theorem files : FailsOwn Work.files :=
  fun session => .ok session.files

theorem setFiles (files : Files.Tree) : FailsOwn (Work.setFiles files) :=
  fun _ => .ok ()

theorem bind
    {task : Work α} {next : α → Work β} (first : FailsOwn task)
    (rest : ∀ value, FailsOwn (next value)) : FailsOwn (task >>= next) := by
  intro session
  have own := first session
  rw [perform_bind]
  rcases performed : task.perform session with ⟨failure | value, after⟩
  · rw [performed] at own
    exact .error (own failure rfl)
  · exact rest value after

theorem ite {condition : Prop} [Decidable condition] {task other : Work α}
    (first : FailsOwn task) (second : FailsOwn other) :
    FailsOwn (if condition then task else other) := by
  split
  · exact first
  · exact second

theorem checkPath (path : Files.Path) : FailsOwn (Work.checkPath path) :=
  .ite
    (.bind (.throw trivial) fun _ => .ite (.throw trivial) (.pure ()))
    (.ite (.throw trivial) (.pure ()))

theorem makeParent (path : Files.Path) : FailsOwn (Work.makeParent path) := by
  refine .bind (.checkPath path.parent) fun _ => ?_
  refine .bind .files fun tree => .bind (.setFiles _) fun _ => ?_
  split
  · exact .pure ()
  · exact .throw trivial

theorem openFile (path : Files.Path) : FailsOwn (Work.openFile path) := by
  refine .bind (makeParent path) fun _ => .bind (.checkPath path) fun _ => ?_
  refine .bind .files fun tree => ?_
  split
  · exact .throw trivial
  · exact .setFiles _

theorem writeText (path : Files.Path) (content : String) :
    FailsOwn (Work.writeText path content) := by
  refine .bind (openFile path) fun _ => .bind .files fun tree => ?_
  refine .bind (.setFiles _) fun _ => ?_
  split
  · exact .pure ()
  · exact .throw trivial

theorem writeValue (path : Files.Path) (content : Value) :
    FailsOwn (Work.writeValue path content) := by
  unfold Work.writeValue
  split
  · exact writeText path _
  · exact .bind (openFile path) fun _ => .throw trivial
  · exact .bind (makeParent path) fun _ => .throw trivial

end FailsOwn

end Work

namespace Value

theorem failsOwn_entries (value : Value) : FailsOwn value.entries := by
  rw [entries]
  split
  · exact .ok _
  · exact .error trivial

theorem failsOwn_get (value key fallback : Value) :
    FailsOwn (value.get key fallback) := by
  rw [get]
  split
  · rename_i failure fails
    exact .error (value.failsOwn_entries failure fails)
  · split
    · exact .ok _
    · exact .error trivial

theorem failsOwn_written (value : Value) : FailsOwn value.written := by
  rw [written]
  split
  · exact .error trivial
  · exact .ok _

theorem failsOwn_path (value : Value) : FailsOwn value.path := by
  unfold path
  split
  · exact .ok _
  · exact .ok _
  · exact .error trivial

theorem failsOwn_lowered (value : Value) : FailsOwn value.lowered := by
  unfold lowered
  split
  · exact .ok _
  · exact .ok _
  · exact .ok _
  · exact .error trivial

theorem failsOwn_stripped (value : Value) : FailsOwn value.stripped := by
  unfold stripped
  split
  · exact .ok _
  · exact .ok _
  · exact .ok _
  · exact .error trivial

end Value

theorem PlatformCondition.failsOwn_holdsOn
    (condition : PlatformCondition) (host : Value) :
    FailsOwn (condition.holdsOn host) := by
  rw [holdsOn]
  split
  · exact
      .bind host.failsOwn_stripped fun stripped =>
        .bind stripped.failsOwn_lowered fun _ => .ok _
  · exact .ok _

theorem Descriptor.failsOwn_resolveOn
    (descriptor : Descriptor) (host : Value) :
    FailsOwn (descriptor.resolveOn host) := by
  refine .bind (descriptor.condition.failsOwn_holdsOn host) fun holds => ?_
  split
  · exact .error trivial
  · exact .ok _

namespace Configuration

theorem failsOwn_option
    (configuration : Configuration) (name fallback : Value) :
    FailsOwn (configuration.option name fallback) :=
  .bind (Value.failsOwn_get _ _ _) fun entries =>
    entries.failsOwn_get name fallback

theorem failsOwn_provisionerSettings
    (configuration : Configuration) (name : Value) :
    FailsOwn (configuration.provisionerSettings name) :=
  .bind (Value.failsOwn_get _ _ _) fun entries =>
    .bind (entries.failsOwn_get name .null) fun _ => .ok _

end Configuration

namespace Workspace

theorem failsOwn_kindOf (name : Value) : FailsOwn (kindOf name) := by
  unfold kindOf
  split
  · extract_lets kind?
    clear_value kind?
    cases kind? with
    | some kind => exact .ok kind
    | none =>
        cases written : name.written with
        | error failure => exact .error (name.failsOwn_written failure written)
        | ok text => exact .error trivial
  · exact .error trivial

theorem failsOwn_provisioner (workspace : Workspace) (name : Value) :
    FailsOwn (workspace.provisioner name) := by
  have named :
      ∀ name,
        FailsOwn do
          let kind ← kindOf name
          let settings ← workspace.configuration.provisionerSettings name
          return Provisioner.make kind settings workspace.directory
            workspace.isDryRun := by
    intro name
    exact
      .bind (failsOwn_kindOf name) fun _ =>
        .bind (workspace.configuration.failsOwn_provisionerSettings name)
          fun _ => .ok _
  rw [provisioner]
  split
  · exact named name
  · exact .bind (workspace.configuration.failsOwn_option _ _) named

end Workspace

namespace Provisioner

variable (provisioner : Provisioner)

theorem failsOwn_setting (name : String) (fallback : Value) :
    FailsOwn (provisioner.setting name fallback) :=
  Value.failsOwn_get _ _ _

theorem failsOwn_content (set : DependencySet) :
    FailsOwn (provisioner.content set) := by
  apply FailsOwn.map
  rw [render]
  split
  · exact
      .bind (provisioner.failsOwn_setting _ _) fun packages =>
        .bind packages.failsOwn_written fun _ => .ok _
  · exact .ok _

theorem failsOwn_manifestPath : FailsOwn provisioner.manifestPath :=
  .bind (provisioner.failsOwn_setting _ _) fun name =>
    .bind name.failsOwn_path fun _ => .ok _

theorem failsOwn_lineOf (command : List Value) : FailsOwn (lineOf command) :=
  .map (.mapM Value.failsOwn_written command) _

theorem failsOwn_shellCommand (expression : Files.Path) (command : Value) :
    FailsOwn (provisioner.shellCommand expression command) :=
  .bind (provisioner.failsOwn_setting _ _) fun _ =>
    .bind (provisioner.failsOwn_setting _ _) fun _ => .ok _

end Provisioner

end NativeDeps
