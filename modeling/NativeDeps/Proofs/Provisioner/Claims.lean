import NativeDeps.Proofs.Provisioner.Shell
import NativeDeps.Proofs.Session.Claims

/-!
# What a shell says has been written

On the way into the shell one file is said to have been written, the expression, and it is
said when the expression stands at its place.  Running a command tells plain things only.
-/

namespace NativeDeps

open Work

namespace Provisioner

theorem tellsPlainly_settle
    (command : List Value) (capturesOutput : Bool) (outcome : Outcome) :
    TellsPlainly (settle command capturesOutput outcome) := by
  cases outcome with
  | notFound => exact .bind (.ofExcept _) fun _ => .throw _
  | denied => exact .bind (.ofExcept _) fun _ => .throw _
  | interrupted => exact .throw _
  | exited status output errors =>
      show TellsPlainly (if status = some 0 then _ else _)
      apply TellsPlainly.ite
      · exact .ite (.bind (.record rfl) fun _ => .pure _) (.pure _)
      · exact
          .bind (.ofExcept _) fun _ =>
            .bind (.record rfl) fun _ => .bind (.ofExcept _) fun _ => .throw _

theorem tellsPlainly_run
    (provisioner : Provisioner) (command : List Value)
    (directory : Option Files.Path) (capturesOutput : Bool) :
    TellsPlainly (provisioner.run command directory capturesOutput) := by
  rw [run]
  refine .bind (.ofExcept _) fun line => ?_
  refine .bind (.record rfl) fun _ => .bind (.record rfl) fun _ => ?_
  apply TellsPlainly.ite
  · exact .bind (.record rfl) fun _ => .pure _
  · exact
      .bind (.call _) fun outcome =>
        tellsPlainly_settle command capturesOutput outcome

theorem tellsPlainly_enterShell
    (provisioner : Provisioner) (set : DependencySet) (command : Value)
    (capturesOutput : Bool) :
    TellsPlainly (provisioner.enterShell set command capturesOutput) := by
  refine .bind .files fun tree => .bind (.ofExcept _) fun words => ?_
  refine .bind (.ofExcept _) fun executable => .bind (.ofExcept _) fun _ => ?_
  refine .bind (.record rfl) fun _ => ?_
  exact
    .bind (provisioner.tellsPlainly_run words none capturesOutput) fun _ =>
      .pure _

/--
How the writing of a provisioner ends, and the session after it.  A dry run only tells of
it, and otherwise it is told when the file has been filled.
-/
inductive Writes (provisioner : Provisioner) (path : Files.Path)
    (content : Value) (session : Session) :
    Except Failure Unit × Session → Prop
  | foretold (isDry : provisioner.isDryRun = true) :
      Writes provisioner path content session
        (.ok (), session.add (.notice (.wouldWrite path)))
  | stopped (isReal : provisioner.isDryRun = false) (failure : Failure)
      (files : Files.Tree) :
      Writes provisioner path content session
        (.error failure, { session with files := files })
  | wrote (isReal : provisioner.isDryRun = false) {text : String}
      {made files : Files.Tree} (isText : content = .text text)
      (fills : Fills session.files path (.text text) made files) :
      Writes provisioner path content session
        (.ok (),
          ({ session with files := files } : Session).add
            (.notice (.wrote path)))

theorem writes_write
    (provisioner : Provisioner) (path : Files.Path) (content : Value)
    (session : Session) :
    provisioner.Writes path content session
      ((provisioner.write path content).perform session) := by
  rw [write]
  cases isDry : provisioner.isDryRun with
  | true => exact .foretold isDry
  | false =>
      obtain ⟨result, files, comesTo, lands⟩ :=
        exists_lands session.files path content
      have performs := comesTo session rfl
      rw [if_neg Bool.false_ne_true]
      cases lands with
      | stopped failure changes =>
          rw [perform_bind_of_error performs]
          exact .stopped isDry failure files
      | brokenOff cut fills =>
          rw [perform_bind_of_error performs]
          exact .stopped isDry .noSpace files
      | emptied isBroken fills =>
          rw [perform_bind_of_error performs]
          exact .stopped isDry .unencodable files
      | written fits fills =>
          rw [perform_bind_of_ok performs]
          exact .wrote isDry rfl fills

/-- Either way one thing is told, the files being as they are at that moment. -/
theorem tellsOnly_write
    {provisioner : Provisioner} {path : Files.Path} {content : Value}
    {session : Session} {property : Occurrence → Prop}
    (foretold :
      provisioner.isDryRun = true →
        property ⟨.notice (.wouldWrite path), session.files⟩)
    (wrote :
      ∀ text made files,
        provisioner.isDryRun = false → content = .text text →
          Fills session.files path (.text text) made files →
            property ⟨.notice (.wrote path), files⟩) :
    TellsOnly property (provisioner.write path content) session := by
  have writes := provisioner.writes_write path content session
  rw [TellsOnly]
  rcases performed : (provisioner.write path content).perform session with
    ⟨result, after⟩
  rw [performed] at writes
  cases writes with
  | foretold isDry =>
      exact
        ⟨[⟨.notice (.wouldWrite path), session.files⟩], rfl,
          List.forall_mem_singleton.2 (foretold isDry)⟩
  | stopped isReal failure files =>
      exact ⟨[], (List.append_nil _).symm, List.forall_mem_nil _⟩
  | @wrote isReal text made files isText fills =>
      exact
        ⟨[⟨.notice (.wrote path), files⟩], rfl,
          List.forall_mem_singleton.2
            (wrote text made files isReal isText fills)⟩

/-- What is said to be written is a text, and stands at the place of its path. -/
theorem claimsOnly_write
    (provisioner : Provisioner) (path : Files.Path) (content : Value) :
    ClaimsOnly
      (fun claimed tree =>
        claimed = path ∧
          ∃ text,
            content = .text text ∧
              tree.get? (path.location tree.directory) =
                some (.file (.text text)))
      (provisioner.write path content) := by
  refine fun session => tellsOnly_write (fun isDry => nofun) ?_
  rintro text made files isReal isText fills claimed ⟨⟩
  refine ⟨rfl, text, isText, ?_⟩
  rw [fills.changesOnly.directory]
  exact fills.stands

/-- Of its expression alone the shell says that it was written, when it stands at its place. -/
theorem claimsOnly_provideShell
    (provisioner : Provisioner) (set : DependencySet) (command : Value)
    (capturesOutput : Bool) :
    ClaimsOnly
      (fun claimed tree =>
        claimed = provisioner.expressionPath ∧
          ∃ text : String,
            provisioner.render set = .ok (text : Spelling) ∧
              tree.get? (claimed.location tree.directory) =
                some (.file (.text text)))
      (provisioner.provideShell set command capturesOutput) := by
  rw [provideShell_eq]
  have gives :
      Gives (fun content => provisioner.content set = .ok content)
        (Work.ofExcept (provisioner.content set)) :=
    fun _ _ succeeds => succeeds
  refine
    .bind_of_gives (TellsPlainly.ofExcept _).claimsOnly gives
      fun content contains => ?_
  refine .bind ?_ fun _ => ?_
  · refine (provisioner.claimsOnly_write _ content).mono ?_
    rintro claimed tree ⟨rfl, text, rfl, stands⟩
    exact ⟨rfl, text, render_of_content contains, stands⟩
  · exact
      (TellsPlainly.of_keeps (.checkPath _)).claimsOnly.bind fun _ =>
        (provisioner.tellsPlainly_enterShell set command
          capturesOutput).claimsOnly

end Provisioner

end NativeDeps
