import NativeDeps.Session

/-!
# Pieces of work, done one after the other

What a piece of work comes to is put together from its steps: a step that fails ends
the work, and any other hands its value and its session on.

What a piece of work leaves alone is said by a view of the session that is the same
before and after it.  Two views matter: the surroundings, which are all of a session
but what was told in it, and of these what is left when files may change.
-/

namespace NativeDeps

/-- The start of a process, and the files as they stood then. -/
structure Start where
  call : Call
  files : Files.Tree
deriving Repr

namespace Occurrence

def start? (occurrence : Occurrence) : Option Start :=
  occurrence.event.call?.map fun call => ⟨call, occurrence.files⟩

end Occurrence

namespace Session

/-- The processes that were started in a session, the first one first. -/
def starts (session : Session) : List Start :=
  session.history.filterMap Occurrence.start?

/-- A session in which something more has happened. -/
def add (session : Session) (event : Event) : Session :=
  { session with history := session.history ++ [⟨event, session.files⟩] }

/-- All of a session but what was told and printed in it. -/
def surroundings (session : Session) :
    Files.Tree × List Outcome × List Start :=
  (session.files, session.outcomes, session.starts)

/-- What of the surroundings stays when files are written. -/
def processes (session : Session) :
    Files.Location × List Outcome × List Start :=
  (session.files.directory, session.outcomes, session.starts)

theorem processes_eq_of_surroundings_eq
    {session other : Session}
    (same : session.surroundings = other.surroundings) :
    session.processes = other.processes := by
  simp only [surroundings, Prod.mk.injEq] at same
  rcases same with ⟨files, outcomes, starts⟩
  rw [processes, processes, files, outcomes, starts]

@[simp]
theorem add_files (session : Session) (event : Event) :
    (session.add event).files = session.files :=
  rfl

@[simp]
theorem add_outcomes (session : Session) (event : Event) :
    (session.add event).outcomes = session.outcomes :=
  rfl

theorem starts_add (session : Session) (event : Event) :
    (session.add event).starts =
      session.starts ++
        (event.call?.map fun call => ⟨call, session.files⟩).toList := by
  rw [starts, add, List.filterMap_append, ← starts]
  cases event <;> rfl

/-- Only the start of a process counts as more than words. -/
theorem surroundings_add
    (session : Session) {event : Event} (isNoCall : event.call? = none) :
    (session.add event).surroundings = session.surroundings := by
  rw [surroundings, starts_add, isNoCall]
  simp [surroundings]

end Session

namespace Work

variable {α β : Type}

/-- A piece of work that does not fail gives its only value. -/
theorem eq_ok_of_isOk {result : Except Failure Unit}
    (succeeds : result.isOk = true) : result = .ok () := by
  cases result with
  | error failure => cases succeeds
  | ok => rfl

theorem perform_bind
    (task : Work α) (next : α → Work β) (session : Session) :
    (task >>= next).perform session =
      match task.perform session with
      | (.ok value, after) => (next value).perform after
      | (.error failure, after) => (.error failure, after) := by
  simp only [perform, ExceptT.run, StateT.run, bind, ExceptT.bind,
    ExceptT.mk, StateT.bind, ExceptT.bindCont]
  cases task session with
  | mk result after => cases result <;> rfl

/-- A step that succeeds hands on its value and its session. -/
theorem perform_bind_of_ok
    {task : Work α} {session after : Session} {value : α}
    (succeeds : task.perform session = (.ok value, after))
    (next : α → Work β) :
    (task >>= next).perform session = (next value).perform after := by
  rw [perform_bind, succeeds]

/-- A step that fails ends the work. -/
theorem perform_bind_of_error
    {task : Work α} {session after : Session} {failure : Failure}
    (fails : task.perform session = (.error failure, after))
    (next : α → Work β) :
    (task >>= next).perform session = (.error failure, after) := by
  rw [perform_bind, fails]

/-- Work that begins with a result succeeds where the result is a value and the rest does. -/
theorem perform_ofExcept_bind_iff
    {result : Except Failure α} {next : α → Work β} {session after : Session}
    {value : β} :
    ((ofExcept result >>= next).perform session = (.ok value, after)) ↔
      ∃ first,
        result = .ok first ∧
          (next first).perform session = (.ok value, after) := by
  cases result with
  | error failure => exact iff_of_false nofun nofun
  | ok first =>
      constructor
      · intro performs
        exact ⟨first, rfl, performs⟩
      · rintro ⟨_, ⟨⟩, performs⟩
        exact performs

/-- A step that only changes the value changes nothing else. -/
theorem perform_bind_pure
    (task : Work α) (change : α → β) (session : Session) :
    (task >>= fun value => pure (change value)).perform session =
      ((task.perform session).1.map change, (task.perform session).2) := by
  rw [perform_bind]
  rcases task.perform session with ⟨failure | value, after⟩ <;> rfl

@[simp]
theorem perform_ofExcept (result : Except Failure α) (session : Session) :
    (ofExcept result).perform session = (result, session) :=
  rfl

theorem ofExcept_map_bind
    {γ : Type} (result : Except Failure α) (change : α → β)
    (next : β → Work γ) :
    Work.ofExcept (result.map change) >>= next =
      Work.ofExcept result >>= fun value => next (change value) := by
  cases result <;> rfl

theorem perform_attempt (task : Work α) (session : Session) :
    task.attempt.perform session =
      (.ok (task.perform session).1, (task.perform session).2) :=
  rfl

@[simp]
theorem perform_record (event : Event) (session : Session) :
    (record event).perform session = (.ok (), session.add event) :=
  rfl

@[simp]
theorem perform_tell (notice : Notice) (session : Session) :
    (tell notice).perform session = (.ok (), session.add (.notice notice)) :=
  rfl

@[simp]
theorem perform_files (session : Session) :
    files.perform session = (.ok session.files, session) :=
  rfl

/-- The outcome of the next process is the first one of those that are left. -/
theorem perform_takeOutcome (session : Session) :
    takeOutcome.perform session =
      (.ok (session.outcomes.headD .quiet),
        { session with outcomes := session.outcomes.tail }) := by
  rcases session with ⟨files, outcomes, history⟩
  cases outcomes <;> rfl

theorem perform_call (call : Call) (session : Session) :
    (Work.call call).perform session =
      (.ok (session.outcomes.headD .quiet),
        { session.add (.call call) with
          outcomes := session.outcomes.tail }) := by
  rw [Work.call, perform_bind_of_ok (perform_record _ session),
    perform_takeOutcome]
  rfl

/-- A piece of work leaves a view of the session as it was, however it ends. -/
def Keeps {γ : Type} (view : Session → γ) (task : Work α) : Prop :=
  ∀ session, view (task.perform session).2 = view session

namespace Keeps

variable {γ : Type} {view : Session → γ}

theorem pure (value : α) : Keeps view (Pure.pure value : Work α) :=
  fun _ => rfl

theorem throw (failure : Failure) :
    Keeps view (MonadExcept.throw failure : Work α) :=
  fun _ => rfl

theorem ofExcept (result : Except Failure α) :
    Keeps view (Work.ofExcept result) :=
  fun _ => rfl

theorem files : Keeps view Work.files :=
  fun _ => rfl

theorem bind
    {task : Work α} {next : α → Work β} (first : Keeps view task)
    (rest : ∀ value, Keeps view (next value)) :
    Keeps view (task >>= next) := by
  intro session
  have kept := first session
  rw [Work.perform_bind]
  rcases performed : task.perform session with ⟨failure | value, after⟩
  · rw [performed] at kept
    exact kept
  · rw [performed] at kept
    exact (rest value after).trans kept

/-- What is made of the value in the end changes nothing. -/
theorem change {task : Work α} (keeps : Keeps view task) (change : α → β) :
    Keeps view (task >>= fun value => Pure.pure (change value)) :=
  keeps.bind fun _ => pure _

theorem ite {condition : Prop} [Decidable condition] {task other : Work α}
    (first : Keeps view task) (second : Keeps view other) :
    Keeps view (if condition then task else other) := by
  split
  · exact first
  · exact second

theorem tell (notice : Notice) :
    Keeps Session.surroundings (Work.tell notice) :=
  fun session => session.surroundings_add rfl

theorem print (text : String) :
    Keeps Session.surroundings (Work.print text) :=
  fun session => session.surroundings_add rfl

theorem printLines (lines : List Spelling) :
    Keeps Session.surroundings (Work.printLines lines) :=
  .bind (print _) fun _ => .ite (throw _) (pure _)

/-- Starting a process touches no files. -/
theorem call_files (call : Call) :
    Keeps Session.files (Work.call call) := by
  intro session
  rw [perform_call]
  rfl

/-- What follows a piece of work does not count for what it leaves alone. -/
theorem perform_bind
    {task : Work α} {next : α → Work β}
    (rest : ∀ value, Keeps view (next value)) (session : Session) :
    view ((task >>= next).perform session).2 =
      view (task.perform session).2 := by
  rw [Work.perform_bind]
  rcases task.perform session with ⟨failure | value, after⟩
  · rfl
  · exact rest value after

/-- Where the surroundings stay, the files stay. -/
theorem ofSurroundings {task : Work α}
    (keeps : Keeps Session.surroundings task) : Keeps Session.files task :=
  fun session => congrArg Prod.fst (keeps session)

/-- Where the surroundings stay, the part of them stays that outlives files. -/
theorem processes {task : Work α} (keeps : Keeps Session.surroundings task) :
    Keeps Session.processes task :=
  fun session => Session.processes_eq_of_surroundings_eq (keeps session)

end Keeps

/-- Every value that a piece of work gives has a property. -/
def Gives (property : α → Prop) (task : Work α) : Prop :=
  ∀ session value, (task.perform session).1 = .ok value → property value

namespace Gives

variable {property : β → Prop}

theorem pure {value : β} (holds : property value) :
    Gives property (Pure.pure value) := by
  intro session other same
  cases same
  exact holds

theorem throw (failure : Failure) :
    Gives property (MonadExcept.throw failure) :=
  nofun

/-- What the last step gives is what the work gives. -/
theorem bind
    {task : Work α} {next : α → Work β}
    (rest : ∀ value, Gives property (next value)) :
    Gives property (task >>= next) := by
  intro session value succeeds
  rw [perform_bind] at succeeds
  rcases performed : task.perform session with ⟨failure | middle, after⟩
  · rw [performed] at succeeds
    cases succeeds
  · rw [performed] at succeeds
    exact rest middle after value succeeds

theorem ite {condition : Prop} [Decidable condition] {task other : Work β}
    (first : Gives property task) (second : Gives property other) :
    Gives property (if condition then task else other) := by
  split
  · exact first
  · exact second

end Gives

/-- A piece of work gives a value in every session. -/
def NeverFails (task : Work α) : Prop :=
  ∀ session, ∃ value after, task.perform session = (.ok value, after)

namespace NeverFails

theorem pure (value : α) : NeverFails (Pure.pure value) :=
  fun session => ⟨value, session, rfl⟩

theorem record (event : Event) : NeverFails (Work.record event) :=
  fun session => ⟨(), _, perform_record event session⟩

theorem attempt (task : Work α) : NeverFails task.attempt :=
  fun session => ⟨_, _, perform_attempt task session⟩

theorem bind
    {task : Work α} {next : α → Work β} (first : NeverFails task)
    (rest : ∀ value, NeverFails (next value)) :
    NeverFails (task >>= next) := by
  intro session
  obtain ⟨value, after, performs⟩ := first session
  rw [perform_bind_of_ok performs]
  exact rest value after

end NeverFails

end Work

end NativeDeps
