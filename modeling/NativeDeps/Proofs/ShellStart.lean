import NativeDeps.Proofs.Files.Path
import NativeDeps.Proofs.Request

/-!
# Starts of the shell

Whatever has happened before, at the moment when a provision starts a process, the file
that the process is told to enter holds what was rendered for the set that is provided.
The file is written right before the start, and the path that is handed over is the
resolved one, so it denotes the place of that file in every directory.
-/

namespace NativeDeps

/-- A process that enters the shell for a set, with its expression at a place. -/
structure Start.EntersShell (start : Start) (workspace : Workspace)
    (name command : Value) (provisioner : Provisioner) (set : DependencySet)
    (text : String) (place : Spelling) (executable isPure : Value) : Prop where
  asked : workspace.provisioner name = .ok provisioner
  isNix : provisioner.kind = .nix
  resolved : workspace.descriptor.resolveOn workspace.host = .ok set
  rendered : provisioner.render set = .ok text
  executableSet :
    provisioner.setting "executable" (.text "nix-shell") = .ok executable
  pureSet : provisioner.setting "pure" (.bool false) = .ok isPure
  words :
    start.call.command =
      executable ::
        (if isPure.isGiven then [.text "--pure"] else []) ++
        Value.ofSpelling place ::
        (if command.isGiven then [.text "--run", command] else [])
  directory : start.call.directory = workspace.directory
  isAbsolute : (Files.Path.ofSpelling place).anchor = .root
  noUp : (".." : Spelling) ∉ (Files.Path.ofSpelling place).parts
  holds :
    start.files.get?
        ((Files.Path.ofSpelling place).location start.files.directory) =
      some (.file (.text text))

namespace Workspace

variable {workspace : Workspace} {name command : Value} {session : Session}
  {provisioner : Provisioner} {set : DependencySet} {text : String}
  {words : List Value} {line : Spelling} {files : Files.Tree}

/-- A process that is started in a proper directory enters the shell. -/
theorem entersShell_of_enters
    (areNames : ∀ part ∈ session.files.directory, Files.IsName part)
    (proper : workspace.directory.IsProper)
    (enters :
      workspace.Enters name command session.files provisioner set text words
        line files)
    (capturesOutput : Bool) :
    ∃ place executable isPure,
      Start.EntersShell
        ⟨⟨words, workspace.directory, capturesOutput⟩, files⟩ workspace name
        command provisioner set text place executable isPure := by
  rcases enters with ⟨asked, resolves, isNix, enters⟩
  obtain ⟨executable, isPure, executableSet, pureSet, rfl⟩ :=
    Provisioner.shellCommand_eq enters.ordered
  have pathProper : provisioner.expressionPath.IsProper := by
    rw [Provisioner.expressionPath, (eq_of_provisioner asked).1]
    exact proper.join (Files.Path.isProper_ofSpelling _)
  let location :=
    provisioner.expressionPath.location session.files.directory
  have locationNames : ∀ part ∈ location, Files.IsName part :=
    fun part member =>
      Files.Path.isName_of_mem_location areNames pathProper member
  have noUp : ∀ part ∈ location, part ≠ ".." :=
    fun part member => (locationNames part member).2
  have readBack :
      Files.Path.ofSpelling (Files.Path.ofLocation location).spelling =
        .ofLocation location :=
    Files.Path.ofSpelling_spelling_ofLocation fun part member =>
      (locationNames part member).1
  refine
    ⟨(Files.Path.ofLocation location).spelling, executable, isPure, asked,
      isNix, resolves, Provisioner.render_of_content enters.content,
      executableSet, pureSet, rfl, rfl, ?_, ?_, ?_⟩
  · rw [readBack]
    rfl
  · rw [readBack]
    exact fun member => noUp ".." member rfl
  · rw [readBack, Files.Path.location_ofLocation noUp]
    exact enters.written.stands rfl

/-- Every process that a provision starts in a proper directory enters the shell. -/
theorem exists_entersShell
    (areNames : ∀ part ∈ session.files.directory, Files.IsName part)
    (proper : workspace.directory.IsProper) (name command : Value)
    (capturesOutput : Bool) :
    ∃ own,
      session.Continues own
          ((workspace.provision name command capturesOutput).perform
            session).2 ∧
        ∀ start ∈ own,
          ∃ provisioner set text place executable isPure,
            start.EntersShell workspace name command provisioner set text
              place executable isPure := by
  cases isDry : workspace.isDryRun with
  | true =>
      have dryWorkspace : workspace.dry = workspace := by
        rw [dry, ← isDry]
      have kept :=
        workspace.keeps_dry_provision name command capturesOutput session
      rw [dryWorkspace] at kept
      exact ⟨[], .of_surroundings_eq kept, nofun⟩
  | false =>
      rcases enters_or_starts_nothing isDry name command capturesOutput
          session with
        ⟨provisioner, set, text, words, line, files, enters⟩ |
          ⟨result, after, performs, continues, _⟩
      · refine ⟨_, continues_of_enters isDry enters capturesOutput, ?_⟩
        intro start member
        obtain ⟨place, executable, isPure, entersShell⟩ :=
          entersShell_of_enters areNames proper enters capturesOutput
        rw [List.mem_singleton.1 member]
        exact
          ⟨provisioner, set, text, place, executable, isPure, entersShell⟩
      · rw [performs]
        exact ⟨[], continues, nofun⟩

end Workspace

namespace Session

/--
After any requests, every process that a request for a provision starts enters the
shell: its command, its directory and the file that it is told to enter are those of the
set that is provided.
-/
theorem entersShell_of_provision?
    (session : Session) (earlier : List Request) {request : Request}
    {workspace : Workspace} {name command : Value} {capturesOutput : Bool}
    (asks :
      request.provision? = some (workspace, name, command, capturesOutput))
    (areNames : ∀ part ∈ session.files.directory, Files.IsName part)
    (proper : workspace.directory.IsProper) :
    ∃ own,
      (session.after earlier).Continues own
          ((session.after earlier).after [request]) ∧
        ∀ start ∈ own,
          ∃ provisioner set text place executable isPure,
            start.EntersShell workspace name command provisioner set text
              place executable isPure := by
  obtain ⟨_, goesOn⟩ := session.continues_after earlier
  have namesNow :
      ∀ part ∈ (session.after earlier).files.directory,
        Files.IsName part := by
    rw [goesOn.directory]
    exact areNames
  obtain ⟨own, continues, allEnter⟩ :=
    Workspace.exists_entersShell namesNow proper name command
      capturesOutput
  have sameSurroundings :=
    Request.surroundings_work_of_provision? asks (session.after earlier)
  have sameAfter := continues.trans (.of_surroundings_eq sameSurroundings)
  rw [List.append_nil] at sameAfter
  exact ⟨own, sameAfter, allEnter⟩

end Session

/-- A workspace whose manifest has the name of the expression. -/
def Workspace.withCollidingNames : Workspace :=
  { Workspace.withSettings
      [(.text "nix", .mapping [(.text "pure", .bool true)]),
        (.text "manifest",
          .mapping [(.text "filename", .text "shell.nix")])] with
    directory := .ofString ".//build/../work" }

namespace Request

def manifestOfCollidingNames : Request :=
  .provision .withCollidingNames (.text "manifest") .null false

def shellOfCollidingNames : Request :=
  .provision .withCollidingNames (.text "nix") (.text "make") true

/-- The manifest is written to the same file before, and one shell is entered after it. -/
theorem entersShell_after_manifest :
    ((Session.inEmptyHome []).after
          [manifestOfCollidingNames, shellOfCollidingNames]).starts.length =
        1 ∧
      ∃ own,
        ((Session.inEmptyHome []).after [manifestOfCollidingNames]).Continues
            own
            (((Session.inEmptyHome []).after
              [manifestOfCollidingNames]).after [shellOfCollidingNames]) ∧
          ∀ start ∈ own,
            ∃ provisioner set text place executable isPure,
              start.EntersShell .withCollidingNames (.text "nix")
                (.text "make") provisioner set text place executable
                isPure := by
  refine ⟨by decide +kernel, ?_⟩
  refine
    Session.entersShell_of_provision? (.inEmptyHome [])
      [manifestOfCollidingNames] rfl ?_ (Files.Path.isProper_ofSpelling _)
  intro part member
  obtain rfl := List.mem_singleton.1 member
  exact ⟨⟨by decide, by decide, by decide⟩, by decide⟩

end Request

end NativeDeps
