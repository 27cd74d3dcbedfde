import NativeDeps.Proofs.Session.Work

/-!
# What a piece of work tells

Work only adds to the history.  What it adds is followed from step to step, each of them
in the session that it finds, so that what is told of the files can be compared with how
they stood when the work began.

Most of what happens is plain: whatever texts it has, it cannot be taken for the report
that a file has been written.
-/

namespace NativeDeps

/--
An event that is no report of a written file.  What an orchestrator fails with is a text
from outside, which could be anything.
-/
def Event.isPlain : Event → Bool
  | .notice (.wrote _) => false
  | .notice (.manifestWritten _ _) => false
  | .notice (.orchestratorFailed _) => false
  | _ => true

namespace Notice

/-- A notice reads like the report that a file has been written. -/
def ReportsFile (notice : Notice) : Prop :=
  "Wrote ".toList <+: notice.message.toList ∨
    "Manifest for ".toList <+: notice.message.toList

/-- A text begins with a letter that no report of a written file begins with. -/
def OpensOtherwise (text : String) : Prop :=
  (text.toList.head?.any fun first => first != 'W' && first != 'M') = true

instance (text : String) : Decidable (OpensOtherwise text) :=
  inferInstanceAs (Decidable (_ = true))

theorem OpensOtherwise.append
    {text : String} (opens : OpensOtherwise text) (rest : String) :
    OpensOtherwise (text ++ rest) := by
  rw [OpensOtherwise] at opens ⊢
  rw [String.toList_append, List.head?_append]
  cases begins : text.toList.head? with
  | none =>
      rw [begins] at opens
      cases opens
  | some first =>
      rw [begins] at opens
      exact opens

theorem ReportsFile.not_opensOtherwise
    {notice : Notice} (reports : notice.ReportsFile) :
    ¬ OpensOtherwise notice.message := by
  rw [OpensOtherwise]
  rcases reports with ⟨rest, message⟩ | ⟨rest, message⟩
  · rw [← message]
    exact Bool.false_ne_true
  · rw [← message]
    exact Bool.false_ne_true

/-- What is plain does not read like such a report either. -/
theorem not_reportsFile
    {notice : Notice} (isPlain : (Event.notice notice).isPlain = true) :
    ¬ notice.ReportsFile := by
  refine fun reports => reports.not_opensOtherwise ?_
  cases notice with
  | wrote path => cases isPlain
  | manifestWritten name path => cases isPlain
  | orchestratorFailed message => cases isPlain
  | running command => exact .append (by decide) _
  | runningIn directory => exact .append (by decide) _
  | wouldRun command => exact .append (by decide) _
  | commandFailed command => exact .append (by decide) _
  | captured output => exact .append (by decide) _
  | wouldWrite path => exact .append (by decide) _
  | provisioning name count executable =>
      exact .append (.append (.append (.append (.append (by decide) _) _) _) _) _
  | commandIgnored => decide
  | condition text host holds =>
      exact .append (.append (.append (.append (.append (by decide) _) _) _) _) _
  | resolved identifiers =>
      exact .append (.append (.append (by decide) _) _) _
  | unrecognized platform known =>
      exact .append (.append (.append (by decide) _) _) _
  | platformFacts facts => exact .append (by decide) _
  | provisioned provisioner status =>
      exact .append (.append (.append (.append (by decide) _) _) _) _
  | environmentFailed failure => exact .append (by decide) _

end Notice

namespace Work

variable {α β : Type} {property : Occurrence → Prop} {session : Session}

/-- From a session on, a piece of work only adds to the history what has a property. -/
def TellsOnly (property : Occurrence → Prop) (task : Work α)
    (session : Session) : Prop :=
  ∃ added,
    (task.perform session).2.history = session.history ++ added ∧
      ∀ occurrence ∈ added, property occurrence

namespace TellsOnly

theorem mono
    {weaker : Occurrence → Prop} {task : Work α}
    (tells : TellsOnly property task session)
    (weakens : ∀ occurrence, property occurrence → weaker occurrence) :
    TellsOnly weaker task session := by
  obtain ⟨added, history, holds⟩ := tells
  exact
    ⟨added, history, fun occurrence member =>
      weakens occurrence (holds occurrence member)⟩

/-- What leaves the history alone tells nothing. -/
theorem of_history_eq
    {task : Work α}
    (same : (task.perform session).2.history = session.history) :
    TellsOnly property task session :=
  ⟨[], by rw [same, List.append_nil], List.forall_mem_nil _⟩

theorem of_keeps {task : Work α} (keeps : Keeps Session.history task) :
    TellsOnly property task session :=
  of_history_eq (keeps session)

/-- What is told is told with the files as they stand. -/
theorem record {event : Event} (holds : property ⟨event, session.files⟩) :
    TellsOnly property (Work.record event) session :=
  ⟨[⟨event, session.files⟩], rfl, List.forall_mem_singleton.2 holds⟩

theorem call {call : Call} (holds : property ⟨.call call, session.files⟩) :
    TellsOnly property (Work.call call) session := by
  refine ⟨[⟨.call call, session.files⟩], ?_, List.forall_mem_singleton.2 holds⟩
  rw [perform_call]
  rfl

/-- The next step is looked at in the session that the first one leaves. -/
theorem bind
    {task : Work α} {next : α → Work β}
    (first : TellsOnly property task session)
    (rest :
      ∀ value after,
        task.perform session = (.ok value, after) →
          TellsOnly property (next value) after) :
    TellsOnly property (task >>= next) session := by
  obtain ⟨added, history, holds⟩ := first
  rw [TellsOnly, perform_bind]
  rcases performed : task.perform session with ⟨failure | value, after⟩
  · rw [performed] at history
    exact ⟨added, history, holds⟩
  · rw [performed] at history
    obtain ⟨further, longer, holdsFurther⟩ := rest value after performed
    refine ⟨added ++ further, ?_, List.forall_mem_append.2 ⟨holds, holdsFurther⟩⟩
    rw [longer, history, List.append_assoc]

/-- What is made of the value in the end tells nothing. -/
theorem change
    {task : Work α} (tells : TellsOnly property task session)
    (change : α → β) :
    TellsOnly property (task >>= fun value => Pure.pure (change value))
      session :=
  tells.bind fun _ _ _ => of_keeps (.pure _)

/-- Work that begins with a result goes on in the same session. -/
theorem ofExcept_bind
    {result : Except Failure α} {next : α → Work β}
    (rest :
      ∀ value, result = .ok value → TellsOnly property (next value) session) :
    TellsOnly property (Work.ofExcept result >>= next) session := by
  refine .bind (.of_history_eq rfl) fun value after performs => ?_
  obtain ⟨succeeds, rfl⟩ := Prod.mk.inj performs
  exact rest value succeeds

end TellsOnly

/-- Whatever a piece of work tells is plain. -/
def TellsPlainly (task : Work α) : Prop :=
  ∀ session, TellsOnly (·.event.isPlain = true) task session

namespace TellsPlainly

theorem of_keeps {task : Work α} (keeps : Keeps Session.history task) :
    TellsPlainly task :=
  fun _ => .of_keeps keeps

theorem pure (value : α) : TellsPlainly (Pure.pure value : Work α) :=
  of_keeps (.pure value)

theorem throw (failure : Failure) :
    TellsPlainly (MonadExcept.throw failure : Work α) :=
  of_keeps (.throw failure)

theorem ofExcept (result : Except Failure α) :
    TellsPlainly (Work.ofExcept result) :=
  of_keeps (.ofExcept result)

theorem files : TellsPlainly Work.files :=
  of_keeps .files

theorem record {event : Event} (isPlain : event.isPlain = true) :
    TellsPlainly (Work.record event) :=
  fun _ => .record isPlain

theorem call (call : Call) : TellsPlainly (Work.call call) :=
  fun _ => .call rfl

theorem bind
    {task : Work α} {next : α → Work β} (first : TellsPlainly task)
    (rest : ∀ value, TellsPlainly (next value)) :
    TellsPlainly (task >>= next) :=
  fun session => (first session).bind fun value after _ => rest value after

theorem change
    {task : Work α} (plain : TellsPlainly task) (change : α → β) :
    TellsPlainly (task >>= fun value => Pure.pure (change value)) :=
  fun session => (plain session).change change

theorem ite {condition : Prop} [Decidable condition] {task other : Work α}
    (first : TellsPlainly task) (second : TellsPlainly other) :
    TellsPlainly (if condition then task else other) := by
  split
  · exact first
  · exact second

theorem printLines (lines : List Spelling) :
    TellsPlainly (Work.printLines lines) :=
  .bind (.record rfl) fun _ => .ite (.throw _) (.pure _)

end TellsPlainly

end Work

end NativeDeps
