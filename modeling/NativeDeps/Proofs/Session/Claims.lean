import NativeDeps.Proofs.Session.Telling

/-!
# Files that are said to be written

Some notices say that a file has been written.  What a piece of work adds to the history
is put together from its steps, and so is what holds of the files that it claims to have
written, at the moment of each claim.
-/

namespace NativeDeps

/-- The file that an event says has been written, if it says so of one. -/
def Event.claimedFile? : Event → Option Files.Path
  | .notice (.wrote path) => some path
  | .notice (.manifestWritten _ path) => some path
  | _ => none

theorem Event.claimedFile?_eq_none
    {event : Event} (isPlain : event.isPlain = true) :
    event.claimedFile? = none := by
  cases event with
  | notice notice =>
      cases notice with
      | wrote path => cases isPlain
      | manifestWritten name path => cases isPlain
      | _ => rfl
  | _ => rfl

/-- The path of the expression that an event says was written. -/
def Event.expression? : Event → Option Files.Path
  | .notice (.wrote path) => some path
  | _ => none

theorem Event.eq_of_expression?
    {event : Event} {path : Files.Path}
    (written : event.expression? = some path) :
    event = .notice (.wrote path) := by
  cases event with
  | notice notice =>
      cases notice with
      | wrote other => rw [Option.some.inj written]
      | _ => cases written
  | _ => cases written

/-- What claims a file reads like a report. -/
theorem Notice.reportsFile
    {notice : Notice} {path : Files.Path}
    (claims : (Event.notice notice).claimedFile? = some path) :
    notice.ReportsFile := by
  cases notice with
  | wrote path => exact .inl ⟨_, String.toList_append.symm⟩
  | manifestWritten name path =>
      refine .inr ⟨(name.shown ++ (" written to " ++ path.toString)).toList, ?_⟩
      rw [← String.toList_append, ← String.append_assoc,
        ← String.append_assoc]
      rfl
  | _ => cases claims

namespace Work

variable {α β : Type} {property : Files.Path → Files.Tree → Prop}

/--
A piece of work only adds to the history, and whatever file it says has been written has
a property among the files of that moment.
-/
def ClaimsOnly (property : Files.Path → Files.Tree → Prop) (task : Work α) :
    Prop :=
  ∀ session,
    ∃ added,
      (task.perform session).2.history = session.history ++ added ∧
        ∀ occurrence ∈ added, ∀ path,
          occurrence.event.claimedFile? = some path →
            property path occurrence.files

/-- What is plain claims nothing. -/
theorem TellsPlainly.claimsOnly
    {task : Work α} (plain : TellsPlainly task) : ClaimsOnly property task := by
  refine fun session => (plain session).mono fun occurrence isPlain => ?_
  intro path claims
  rw [Event.claimedFile?_eq_none isPlain] at claims
  cases claims

namespace ClaimsOnly

/-- Claims are among what is told. -/
theorem tellsOnly
    {task : Work α} (claims : ClaimsOnly property task) (session : Session) :
    TellsOnly
      (fun occurrence =>
        ∀ path,
          occurrence.event.claimedFile? = some path →
            property path occurrence.files)
      task session :=
  claims session

theorem mono
    {weaker : Files.Path → Files.Tree → Prop} {task : Work α}
    (claims : ClaimsOnly property task)
    (weakens : ∀ path tree, property path tree → weaker path tree) :
    ClaimsOnly weaker task :=
  fun session =>
    (claims.tellsOnly session).mono fun _ holds path claimed =>
      weakens path _ (holds path claimed)

/-- The rest only has to be looked at for what the first step can give. -/
theorem bind_of_gives
    {task : Work α} {next : α → Work β} {possible : α → Prop}
    (first : ClaimsOnly property task) (gives : Gives possible task)
    (rest : ∀ value, possible value → ClaimsOnly property (next value)) :
    ClaimsOnly property (task >>= next) := by
  refine fun session => (first.tellsOnly session).bind ?_
  intro value after performs
  exact rest value (gives session value (congrArg Prod.fst performs)) after

theorem bind
    {task : Work α} {next : α → Work β} (first : ClaimsOnly property task)
    (rest : ∀ value, ClaimsOnly property (next value)) :
    ClaimsOnly property (task >>= next) :=
  fun session => (first.tellsOnly session).bind fun value after _ =>
    rest value after

end ClaimsOnly

end Work

end NativeDeps
