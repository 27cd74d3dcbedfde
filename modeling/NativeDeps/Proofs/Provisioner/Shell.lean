import NativeDeps.Proofs.Failure
import NativeDeps.Proofs.Provisioner.Run
import NativeDeps.Proofs.Session.Writing
import NativeDeps.Proofs.Value

/-!
# Entering the Nix shell

The shell is entered when the expression has been written and the command can be told
of.  Up to there a provision starts no process, and if it fails, the failure is one of
its own.  From there on everything is decided by the command that is run.

A dry run takes the same way without writing.
-/

namespace NativeDeps

namespace Provisioner

open Work

variable {provisioner : Provisioner} {set : DependencySet} {session : Session}
  {command : Value} {capturesOutput : Bool}

/-- What telling and writing values leave alone, a provisioner that writes leaves alone. -/
theorem keeps_write_of {γ : Type} {view : Session → γ}
    (tells : ∀ notice, Keeps view (Work.tell notice))
    (values : ∀ path content, Keeps view (Work.writeValue path content))
    (provisioner : Provisioner) (path : Files.Path) (content : Value) :
    Keeps view (provisioner.write path content) := by
  rw [write]
  exact .ite (tells _) (.bind (values path content) fun _ => tells _)

theorem keeps_write
    (provisioner : Provisioner) (path : Files.Path) (content : Value) :
    Keeps Session.processes (provisioner.write path content) :=
  keeps_write_of (fun _ => (Keeps.tell _).processes) .writeValue provisioner
    path content

theorem failsOwn_write
    (provisioner : Provisioner) (path : Files.Path) (content : Value) :
    Work.FailsOwn (provisioner.write path content) :=
  .ite (.tell _) (.bind (.writeValue path content) fun _ => .tell _)

/-- What is left to do when the expression has been written. -/
def enterShell (provisioner : Provisioner) (set : DependencySet)
    (command : Value) (capturesOutput : Bool) : Work Handle := do
  let words ←
    Work.ofExcept
      (provisioner.shellCommand
        (provisioner.expressionPath.resolve (← Work.files).directory) command)
  let executable ← Work.ofExcept (executableOf words)
  Work.tell (.provisioning set.name set.dependencies.length
    (← Work.ofExcept executable.written))
  let completion ← provisioner.run words none capturesOutput
  return {
    kind := .nix
    set := set
    status := completion.status
    expression := some provisioner.expressionPath }

/-- What telling and starting leave alone, is left alone by entering the shell. -/
theorem keeps_enterShell_of {γ : Type} {view : Session → γ}
    (tells : ∀ notice, Keeps view (Work.tell notice))
    (calls : ∀ call, Keeps view (Work.call call))
    (provisioner : Provisioner) (set : DependencySet) (command : Value)
    (capturesOutput : Bool) :
    Keeps view (provisioner.enterShell set command capturesOutput) := by
  refine .bind .files fun tree => .bind (.ofExcept _) fun words => ?_
  refine .bind (.ofExcept _) fun executable => ?_
  refine .bind (.ofExcept _) fun text => .bind (tells _) fun _ => ?_
  exact
    .bind (keeps_run_of tells calls provisioner words none capturesOutput)
      fun _ => .pure _

/-- The handle of a shell that a command ran in. -/
def shellHandle (provisioner : Provisioner) (set : DependencySet)
    (completion : Completion) : Handle where
  kind := .nix
  set := set
  status := completion.status
  expression := some provisioner.expressionPath

theorem provideShell_eq
    (provisioner : Provisioner) (set : DependencySet) (command : Value)
    (capturesOutput : Bool) :
    provisioner.provideShell set command capturesOutput =
      Work.ofExcept (provisioner.content set) >>= fun content =>
        provisioner.write provisioner.expressionPath content >>= fun _ =>
          Work.checkPath provisioner.expressionPath >>= fun _ =>
            provisioner.enterShell set command capturesOutput :=
  rfl

/-- A command that can be told of has an executable that can be. -/
theorem written_of_lineOf
    {executable : Value} {words : List Value} {line : Spelling}
    (told : lineOf (executable :: words) = .ok line) :
    ∃ text, executable.written = .ok text := by
  cases written : executable.written with
  | ok text => exact ⟨text, rfl⟩
  | error failure =>
      rw [lineOf, List.mapM_cons, written] at told
      cases told

/-- The words of a command that enters the shell with the expression at a place. -/
def shellWords (executable isPure : Value) (place : Files.Path)
    (command : Value) : List Value :=
  executable ::
    (if isPure.isGiven then [.text "--pure"] else []) ++
    .ofSpelling place.spelling ::
    (if command.isGiven then [.text "--run", command] else [])

/-- What the words of the command are, where the settings can be asked at all. -/
theorem shellCommand_eq
    {place : Files.Path} {words : List Value}
    (ordered : provisioner.shellCommand place command = .ok words) :
    ∃ executable isPure,
      provisioner.setting "executable" (.text "nix-shell") = .ok executable ∧
        provisioner.setting "pure" (.bool false) = .ok isPure ∧
        words = shellWords executable isPure place command := by
  rw [shellCommand] at ordered
  cases executableSet :
      provisioner.setting "executable" (.text "nix-shell") with
  | error failure =>
      rw [executableSet] at ordered
      cases ordered
  | ok executable =>
      cases pureSet : provisioner.setting "pure" (.bool false) with
      | error failure =>
          rw [executableSet, pureSet] at ordered
          cases ordered
      | ok isPure =>
          rw [executableSet, pureSet] at ordered
          exact
            ⟨executable, isPure, rfl, rfl, (Except.ok.inj ordered).symm⟩

/-- A command that is in order and can be told of is run, and nothing else is done. -/
theorem perform_enterShell
    {words : List Value} {line : Spelling}
    (ordered :
      provisioner.shellCommand
          (provisioner.expressionPath.resolve session.files.directory)
          command =
        .ok words)
    (told : lineOf words = .ok line) (set : DependencySet)
    (capturesOutput : Bool) :
    ∃ before,
      before.surroundings = session.surroundings ∧
        (provisioner.enterShell set command capturesOutput).perform session =
          (provisioner.run words none capturesOutput >>= fun completion =>
            pure (provisioner.shellHandle set completion)).perform before := by
  obtain ⟨executable, isPure, _, _, rfl⟩ := shellCommand_eq ordered
  obtain ⟨text, written⟩ := written_of_lineOf told
  refine
    ⟨session.add
        (.notice (.provisioning set.name set.dependencies.length text)),
      session.surroundings_add rfl, ?_⟩
  rw [enterShell, perform_bind_of_ok (perform_files session), ordered]
  show (Work.ofExcept executable.written >>= _ : Work _).perform session = _
  rw [written]
  rfl

/-- A command that is not in order, or cannot be told of, is not run. -/
theorem enterShell_cases
    (provisioner : Provisioner) (set : DependencySet) (command : Value)
    (capturesOutput : Bool) (session : Session) :
    (∃ words line,
      provisioner.shellCommand
            (provisioner.expressionPath.resolve session.files.directory)
            command =
          .ok words ∧
        lineOf words = .ok line) ∨
      ∃ failure after,
        (provisioner.enterShell set command capturesOutput).perform session =
            (.error failure, after) ∧
          failure.IsOwn ∧ after.surroundings = session.surroundings := by
  cases ordered :
      provisioner.shellCommand
        (provisioner.expressionPath.resolve session.files.directory)
        command with
  | error failure =>
      have isOwn := provisioner.failsOwn_shellCommand _ _ failure ordered
      refine .inr ⟨failure, session, ?_, isOwn, rfl⟩
      rw [enterShell, perform_bind_of_ok (perform_files session), ordered]
      rfl
  | ok words =>
      cases told : lineOf words with
      | ok line => exact .inl ⟨words, line, rfl, told⟩
      | error failure =>
          right
          obtain ⟨executable, isPure, _, _, rfl⟩ := shellCommand_eq ordered
          cases written : executable.written with
          | error failure =>
              have isOwn := executable.failsOwn_written failure written
              refine ⟨failure, session, ?_, isOwn, rfl⟩
              rw [enterShell, perform_bind_of_ok (perform_files session),
                ordered]
              show
                (Work.ofExcept executable.written >>= _ : Work _).perform
                  session = _
              rw [written]
              rfl
          | ok text =>
              have isOwn := failsOwn_lineOf _ failure told
              refine
                ⟨failure,
                  session.add
                    (.notice
                      (.provisioning set.name set.dependencies.length text)),
                  ?_, isOwn, session.surroundings_add rfl⟩
              rw [enterShell, perform_bind_of_ok (perform_files session),
                ordered]
              show
                (Work.ofExcept executable.written >>= _ : Work _).perform
                  session = _
              rw [written]
              show
                ((provisioner.run _ none capturesOutput >>= _ :
                    Work _)).perform _ = _
              rw [run, told]
              rfl

/-- Only a text can be written. -/
theorem gives_writeValue (path : Files.Path) (content : Value) :
    Gives (fun _ => ∃ text, content = .text text)
      (writeValue path content) := by
  unfold writeValue
  split
  · intro _ _ _
    exact ⟨_, rfl⟩
  · exact .bind fun _ => .throw _
  · exact .bind fun _ => .throw _

/-- The content of a file is what was rendered. -/
theorem content_eq_ok_iff {content : Value} :
    provisioner.content set = .ok content ↔
      ∃ rendering,
        provisioner.render set = .ok rendering ∧
          content = .ofSpelling rendering := by
  rw [Provisioner.content]
  cases provisioner.render set with
  | error failure => exact iff_of_false nofun fun ⟨_, rendered, _⟩ => nomatch rendered
  | ok rendering =>
      constructor
      · intro contains
        exact ⟨rendering, rfl, (Except.ok.inj contains).symm⟩
      · rintro ⟨_, ⟨⟩, rfl⟩
        rfl

/-- A content without halves of characters is spelt as it was rendered. -/
theorem render_of_content {text : String}
    (contains : provisioner.content set = .ok (.text text)) :
    provisioner.render set = .ok (text : Spelling) := by
  obtain ⟨rendering, rendered, isText⟩ := content_eq_ok_iff.1 contains
  rwa [← Value.ofSpelling_eq_text_iff.1 isText.symm]

/--
A provision comes to the start of the shell: the expression is written to its place,
and the command that enters it is in order and can be told of.
-/
structure Enters (provisioner : Provisioner) (set : DependencySet)
    (command : Value) (files : Files.Tree) (text : String)
    (words : List Value) (line : Spelling) (after : Files.Tree) : Prop where
  content : provisioner.content set = .ok (.text text)
  written : Written files provisioner.expressionPath text (.ok ()) after
  ordered :
    provisioner.shellCommand
        (provisioner.expressionPath.resolve files.directory) command =
      .ok words
  told : lineOf words = .ok line

/-- A successful write of the expression is one of what was rendered. -/
theorem written_of_write
    (isReal : provisioner.isDryRun = false) {path : Files.Path}
    {content : Value} {after : Session}
    (writes :
      (provisioner.write path content).perform session = (.ok (), after)) :
    ∃ text files,
      content = .text text ∧ Written session.files path text (.ok ()) files ∧
        after.files = files ∧ after.processes = session.processes := by
  have kept := provisioner.keeps_write path content session
  rw [writes] at kept
  rw [write, isReal, if_neg Bool.false_ne_true, perform_bind] at writes
  rcases performed : (writeValue path content).perform session with
    ⟨failure | ⟨⟩, middle⟩
  · rw [performed] at writes
    cases writes
  · obtain ⟨text, rfl⟩ :=
      gives_writeValue path content session ()
        (congrArg Prod.fst performed)
    obtain ⟨result, files, written⟩ :=
      exists_written session.files path text
    have performs := written.performs session rfl
    rw [performed] at writes
    rw [writeValue, performs] at performed
    obtain ⟨rfl, rfl⟩ := Prod.mk.inj performed
    obtain rfl := (Prod.mk.inj writes).2
    exact ⟨text, files, rfl, written, rfl, kept⟩

/-- Up to the start of the shell a provision that is meant can only fail. -/
theorem enters_or_fails
    (isReal : provisioner.isDryRun = false) (set : DependencySet)
    (command : Value) (capturesOutput : Bool) (session : Session) :
    (∃ text words line files,
      provisioner.Enters set command session.files text words line files) ∨
      ∃ failure after,
        (provisioner.provideShell set command capturesOutput).perform
              session =
            (.error failure, after) ∧
          failure.IsOwn ∧ after.processes = session.processes := by
  rw [provideShell_eq]
  cases contains : provisioner.content set with
  | error failure =>
      exact
        .inr
          ⟨failure, session, rfl,
            provisioner.failsOwn_content set failure contains, rfl⟩
  | ok content =>
      rw [perform_bind_of_ok (perform_ofExcept _ session)]
      rcases performed :
          (provisioner.write provisioner.expressionPath content).perform
            session with
        ⟨failure | ⟨⟩, middle⟩
      · right
        have isOwn :=
          provisioner.failsOwn_write provisioner.expressionPath content
            session failure
        have kept :=
          provisioner.keeps_write provisioner.expressionPath content session
        rw [performed] at isOwn kept
        exact
          ⟨failure, middle, perform_bind_of_error performed _, isOwn rfl,
            kept⟩
      · obtain ⟨text, files, rfl, written, rfl, kept⟩ :=
          written_of_write isReal performed
        rw [perform_bind_of_ok performed,
          perform_bind_of_ok (perform_checkPath (written.usable rfl) _)]
        rcases provisioner.enterShell_cases set command capturesOutput
            middle with
          ⟨words, line, ordered, told⟩ | ⟨failure, after, fails, isOwn, same⟩
        · rw [written.directory] at ordered
          exact
            .inl ⟨text, words, line, _, contains, written, ordered, told⟩
        · exact
            .inr
              ⟨failure, after, fails, isOwn,
                (Session.processes_eq_of_surroundings_eq same).trans kept⟩

theorem processes_of_written
    {path : Files.Path} {text : String} {files : Files.Tree}
    {result : Except Failure Unit}
    (written : Written session.files path text result files) :
    (({ session with files := files } : Session).add
        (.notice (.wrote path))).processes =
      session.processes := by
  have told :=
    ({ session with files := files } : Session).surroundings_add
      (show (Event.notice (.wrote path)).call? = none from rfl)
  rw [Session.processes_eq_of_surroundings_eq told]
  show (files.directory, session.outcomes, session.starts) = _
  rw [written.directory]
  rfl

/-- When the expression has been written, what is left to do is to enter the shell. -/
theorem perform_provideShell_of_written
    (isReal : provisioner.isDryRun = false) {text : String}
    {files : Files.Tree}
    (contains : provisioner.content set = .ok (.text text))
    (written :
      Written session.files provisioner.expressionPath text (.ok ()) files)
    (command : Value) (capturesOutput : Bool) :
    (provisioner.provideShell set command capturesOutput).perform session =
      (provisioner.enterShell set command capturesOutput).perform
        (({ session with files := files } : Session).add
          (.notice (.wrote provisioner.expressionPath))) := by
  have writes :
      (provisioner.write provisioner.expressionPath (.text text)).perform
          session =
        (.ok (),
          ({ session with files := files } : Session).add
            (.notice (.wrote provisioner.expressionPath))) := by
    rw [write, isReal, if_neg Bool.false_ne_true, writeValue,
      perform_bind_of_ok (written.performs session rfl)]
    rfl
  rw [provideShell_eq, contains,
    perform_bind_of_ok (perform_ofExcept _ session),
    perform_bind_of_ok writes,
    perform_bind_of_ok (perform_checkPath (written.usable rfl) _)]

/-- From the start of the shell on, a provision runs the command. -/
theorem perform_provideShell
    (isReal : provisioner.isDryRun = false) {text : String} {line : Spelling}
    {words : List Value} {files : Files.Tree}
    (enters :
      provisioner.Enters set command session.files text words line files)
    (capturesOutput : Bool) :
    ∃ before,
      before.files = files ∧ before.processes = session.processes ∧
        (provisioner.provideShell set command capturesOutput).perform
            session =
          (provisioner.run words none capturesOutput >>= fun completion =>
            pure (provisioner.shellHandle set completion)).perform
              before := by
  rcases enters with ⟨contains, written, ordered, told⟩
  let wrote :=
    ({ session with files := files } : Session).add
      (.notice (.wrote provisioner.expressionPath))
  have kept : wrote.processes = session.processes :=
    processes_of_written written
  have orderedHere :
      provisioner.shellCommand
          (provisioner.expressionPath.resolve wrote.files.directory)
          command =
        .ok words := by
    show provisioner.shellCommand (Files.Path.resolve files.directory _) _ = _
    rwa [written.directory]
  obtain ⟨before, same, performs⟩ :=
    perform_enterShell orderedHere told set capturesOutput
  have sameFiles := congrArg Prod.fst same
  refine
    ⟨before, sameFiles,
      (Session.processes_eq_of_surroundings_eq same).trans kept, ?_⟩
  rw [perform_provideShell_of_written isReal contains written, performs]

end Provisioner

end NativeDeps
