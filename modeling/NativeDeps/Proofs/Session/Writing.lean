import NativeDeps.Proofs.Files.Change
import NativeDeps.Proofs.Session.Work

/-!
# Writing in a session

Writing a file depends on the files alone, and changes nothing else of a session.  It is
stopped before the file is changed, or the file is opened, which makes it or empties it.
From then on the file is filled with the text, or with the beginning of it that the file can
take; and before that only missing directories above the file are made.  What was filled is
the same when it is filled again.
-/

namespace NativeDeps

open Files

/-- Whether a file can have a path. -/
def Files.Path.IsUsable (path : Path) : Prop :=
  path.hasHalf = false ∧ path.hasNull = false

/-- How long a text a file can take is not a matter of what stands in the files. -/
theorem Files.Tree.cut?_congr
    {tree other : Tree} (same : tree.limits = other.limits)
    (location : Location) (text : String) :
    tree.cut? location text = other.cut? location text := by
  rw [cut?, cut?, same]

namespace Work

/-- What a piece of work comes to wherever the files are these. -/
def ComesTo {α : Type} (task : Work α) (tree : Tree)
    (result : Except Failure α) (after : Tree) : Prop :=
  ∀ session, session.files = tree →
    task.perform session = (result, { session with files := after })

namespace ComesTo

variable {α β : Type} {tree middle after : Tree} {task : Work α}
  {next : α → Work β} {result : Except Failure β}

theorem throw (tree : Tree) (failure : Failure) :
    ComesTo (MonadExcept.throw failure : Work α) tree (.error failure) tree := by
  rintro session rfl
  rfl

theorem bind_of_ok
    {value : α} (first : ComesTo task tree (.ok value) middle)
    (rest : ComesTo (next value) middle result after) :
    ComesTo (task >>= next) tree result after := by
  intro session same
  rw [perform_bind_of_ok (first session same)]
  exact rest { session with files := middle } rfl

theorem bind_of_error
    {failure : Failure} (first : ComesTo task tree (.error failure) middle)
    (next : α → Work β) :
    ComesTo (task >>= next) tree (.error failure) middle :=
  fun session same => perform_bind_of_error (first session same) next

/-- What a piece of work comes to is one thing. -/
theorem unique
    {other : Except Failure α} {value : Except Failure α} {otherAfter : Tree}
    (comesTo : ComesTo task tree value after)
    (otherComesTo : ComesTo task tree other otherAfter) :
    value = other ∧ after = otherAfter := by
  have performs := comesTo { files := tree } rfl
  rw [otherComesTo { files := tree } rfl] at performs
  cases performs
  exact ⟨rfl, rfl⟩

end ComesTo

theorem perform_checkPath
    {path : Path} (usable : path.IsUsable) (session : Session) :
    (checkPath path).perform session = (.ok (), session) := by
  rw [checkPath, usable.1, usable.2]
  rfl

theorem comesTo_checkPath_of_isUsable
    {path : Path} (usable : path.IsUsable) (tree : Tree) :
    ComesTo (checkPath path) tree (.ok ()) tree := by
  rintro session rfl
  exact perform_checkPath usable session

/-- A path is usable, or the check of it fails. -/
theorem isUsable_or_fails (path : Path) :
    path.IsUsable ∨
      ∃ failure, ∀ tree, ComesTo (checkPath path) tree (.error failure) tree := by
  cases half : path.hasHalf with
  | true =>
      refine .inr ⟨.unencodable, ?_⟩
      rintro tree session rfl
      rw [checkPath, half]
      rfl
  | false =>
      cases null : path.hasNull with
      | false => exact .inl ⟨half, null⟩
      | true =>
          refine .inr ⟨.nullInPath, ?_⟩
          rintro tree session rfl
          rw [checkPath, half, null]
          rfl

theorem perform_makeParent
    {path : Path} (usable : path.parent.IsUsable) (session : Session) :
    (makeParent path).perform session =
      (match (session.files.ensureDirectory path.parent).2 with
        | none => .ok ()
        | some (fault, place) => .error (.files fault place.spelling),
        { session with
          files := (session.files.ensureDirectory path.parent).1 }) := by
  rw [makeParent, perform_bind_of_ok (perform_checkPath usable session),
    perform_bind_of_ok (perform_files session)]
  rcases session.files.ensureDirectory path.parent with ⟨made, stopped⟩
  cases stopped <;> rfl

/-- Making the directories above a path is stopped, or they are there. -/
theorem exists_comesTo_makeParent (tree : Tree) (path : Path) :
    (∃ failure made,
      ComesTo (makeParent path) tree (.error failure) made ∧
        tree.ChangesOnly Tree.noTarget
          (path.parent.LeadsThrough tree.directory) made) ∨
      ∃ made,
        path.parent.IsUsable ∧
          ComesTo (makeParent path) tree (.ok ()) made ∧
          tree.ChangesOnly Tree.noTarget
            (path.parent.LeadsThrough tree.directory) made ∧
          made.isDirectory path.parent = true := by
  rcases isUsable_or_fails path.parent with usable | ⟨failure, fails⟩
  · have prepares := tree.prepares_ensureDirectory path.parent
    rcases ensured : tree.ensureDirectory path.parent with ⟨made, stopped⟩
    rw [ensured] at prepares
    cases stopped with
    | some stop =>
        rcases stop with ⟨fault, place⟩
        refine .inl ⟨.files fault place.spelling, made, ?_, prepares.changes⟩
        rintro session rfl
        rw [perform_makeParent usable, ensured]
    | none =>
        refine .inr ⟨made, usable, ?_, prepares.changes, prepares.reached rfl⟩
        rintro session rfl
        rw [perform_makeParent usable, ensured]
  · exact .inl ⟨failure, tree, (fails tree).bind_of_error _, .refl tree⟩

/--
A file is filled with a content: the directories above it are there, or are made, and then
the file is written.
-/
structure Fills (tree : Tree) (path : Path) (content : Content)
    (made after : Tree) : Prop where
  parentUsable : path.parent.IsUsable
  usable : path.IsUsable
  changes :
    tree.ChangesOnly Tree.noTarget
      (path.parent.LeadsThrough tree.directory) made
  reached : made.isDirectory path.parent = true
  writes : made.write path content = .ok after

namespace Fills

variable {tree made after : Tree} {path : Path} {content : Content}

theorem stands (fills : Fills tree path content made after) :
    after.get? (path.location tree.directory) = some (.file content) := by
  rw [← fills.changes.directory]
  exact Tree.get?_of_write fills.writes

theorem reads (fills : Fills tree path content made after) :
    after.read path = .ok content :=
  Tree.read_of_write fills.writes

theorem changesOnly (fills : Fills tree path content made after) :
    tree.ChangesOnly (· = path.location tree.directory)
      (path.parent.LeadsThrough tree.directory) after := by
  have isTarget :
      path.location made.directory = path.location tree.directory := by
    rw [fills.changes.directory]
  exact
    (fills.changes.mono nofun fun _ leads => leads).trans
      (Tree.changesOnly_of_write fills.writes isTarget)

/-- A file that could be filled can be filled with something else. -/
theorem other
    (fills : Fills tree path content made after) (other : Content) :
    Fills tree path other made
      (after.set (path.location tree.directory) (.file other)) := by
  refine
    ⟨fills.parentUsable, fills.usable, fills.changes, fills.reached, ?_⟩
  rw [← fills.changes.directory]
  exact Tree.write_of_write_other fills.writes other

/-- The directories and the file are there when a file is filled again. -/
theorem again (fills : Fills tree path content made after) (other : Content) :
    Fills after path other after
      (after.set (path.location tree.directory) (.file other)) := by
  refine ⟨fills.parentUsable, fills.usable, .refl after, ?_, ?_⟩
  · exact
      (Tree.keepsDirectories_of_write fills.writes).isDirectory fills.reached
  · rw [← fills.changes.directory]
    exact Tree.write_of_write fills.writes other

/-- A file stays as it is where its own content is set. -/
theorem set_eq (fills : Fills tree path content made after) :
    after.set (path.location tree.directory) (.file content) = after :=
  Except.ok.inj ((fills.other content).writes.symm.trans fills.writes)

end Fills

/-- A file is opened, which empties it, or the work is stopped before that. -/
theorem exists_comesTo_openFile (tree : Tree) (path : Path) :
    (∃ failure made,
      ComesTo (openFile path) tree (.error failure) made ∧
        tree.ChangesOnly Tree.noTarget
          (path.parent.LeadsThrough tree.directory) made) ∨
      ∃ made after,
        ComesTo (openFile path) tree (.ok ()) after ∧
          Fills tree path (.text "") made after := by
  rcases exists_comesTo_makeParent tree path with
    ⟨failure, made, comesTo, changes⟩ |
      ⟨made, parentUsable, comesTo, changes, reached⟩
  · exact .inl ⟨failure, made, comesTo.bind_of_error _, changes⟩
  rcases isUsable_or_fails path with usable | ⟨failure, fails⟩
  · cases writes : made.write path (.text "") with
    | error fault =>
        refine .inl ⟨.files fault path.spelling, made, ?_, changes⟩
        refine
          comesTo.bind_of_ok
            ((comesTo_checkPath_of_isUsable usable made).bind_of_ok ?_)
        rintro session rfl
        rw [perform_bind_of_ok (perform_files session), writes]
        rfl
    | ok after =>
        refine
          .inr ⟨made, after, ?_, parentUsable, usable, changes, reached, writes⟩
        refine
          comesTo.bind_of_ok
            ((comesTo_checkPath_of_isUsable usable made).bind_of_ok ?_)
        rintro session rfl
        rw [perform_bind_of_ok (perform_files session), writes]
        rfl
  · exact
      .inl
        ⟨failure, made, comesTo.bind_of_ok ((fails made).bind_of_error _),
          changes⟩

/-- A file that was filled can be opened again. -/
theorem Fills.comesTo_openFile
    {tree made after : Tree} {path : Path} {content : Content}
    (fills : Fills tree path content made after) :
    ComesTo (openFile path) after (.ok ())
      (after.set (path.location tree.directory) (.file (.text ""))) := by
  have opens := fills.again (.text "")
  have ensured : after.ensureDirectory path.parent = (after, none) :=
    Tree.makeDirectories_of_isDirectory opens.reached _
  have parentMade : ComesTo (makeParent path) after (.ok ()) after := by
    rintro session rfl
    rw [perform_makeParent fills.parentUsable, ensured]
  refine
    parentMade.bind_of_ok
      ((comesTo_checkPath_of_isUsable fills.usable after).bind_of_ok ?_)
  rintro session rfl
  rw [perform_bind_of_ok (perform_files session), opens.writes]
  rfl

/-- An opened file is filled with what it can take of a text. -/
theorem comesTo_writeText
    {tree made opened : Tree} {path : Path}
    (opens : ComesTo (openFile path) tree (.ok ()) opened)
    (fills : Fills tree path (.text "") made opened) (text : String) :
    ComesTo (writeText path text) tree
      (match tree.cut? (path.location tree.directory) text with
        | none => .ok ()
        | some _ => .error .noSpace)
      (opened.set (path.location tree.directory)
        (.file (tree.kept (path.location tree.directory) text))) := by
  have sameDirectory : opened.directory = tree.directory :=
    fills.changesOnly.directory
  have sameCut := Tree.cut?_congr fills.changesOnly.limits
  refine opens.bind_of_ok ?_
  rintro session rfl
  rw [perform_bind_of_ok (perform_files session), sameDirectory]
  simp only [Tree.kept, sameCut]
  cases tree.cut? (path.location tree.directory) text <;> rfl

/--
How writing a value ends, and the files after it.  It is stopped and no file is changed; or
the file is filled with the text, or with the beginning of it that the file can take; or it
is left empty, because it was to take halves of characters.
-/
inductive Lands (tree : Tree) (path : Path) :
    Value → Except Failure Unit → Tree → Prop
  | stopped {content : Value} (failure : Failure) {made : Tree}
      (changes :
        tree.ChangesOnly Tree.noTarget
          (path.parent.LeadsThrough tree.directory) made) :
      Lands tree path content (.error failure) made
  | written {text : String} {made after : Tree}
      (fits : tree.cut? (path.location tree.directory) text = none)
      (fills : Fills tree path (.text text) made after) :
      Lands tree path (.text text) (.ok ()) after
  | brokenOff {text : String} {size : Nat} {made after : Tree}
      (cut : tree.cut? (path.location tree.directory) text = some size)
      (fills : Fills tree path (.beginning text size) made after) :
      Lands tree path (.text text) (.error .noSpace) after
  | emptied {spelling : Spelling} (isBroken : spelling.text? = none)
      {made after : Tree} (fills : Fills tree path (.text "") made after) :
      Lands tree path (@Value.halves spelling isBroken)
        (.error .unencodable) after

/-- Writing touches no file but its own. -/
theorem Lands.changesOnly
    {tree after : Tree} {path : Path} {content : Value}
    {result : Except Failure Unit}
    (lands : Lands tree path content result after) :
    tree.ChangesOnly (· = path.location tree.directory)
      (path.parent.LeadsThrough tree.directory) after := by
  cases lands with
  | stopped failure changes => exact changes.mono nofun fun _ leads => leads
  | written fits fills => exact fills.changesOnly
  | brokenOff cut fills => exact fills.changesOnly
  | emptied isBroken fills => exact fills.changesOnly

theorem exists_lands_text (tree : Tree) (path : Path) (text : String) :
    ∃ result after,
      ComesTo (writeText path text) tree result after ∧
        Lands tree path (.text text) result after := by
  rcases exists_comesTo_openFile tree path with
    ⟨failure, made, comesTo, changes⟩ | ⟨made, opened, comesTo, fills⟩
  · exact
      ⟨.error failure, made, comesTo.bind_of_error _, .stopped _ changes⟩
  · refine ⟨_, _, comesTo_writeText comesTo fills text, ?_⟩
    rw [Tree.kept]
    cases cut : tree.cut? (path.location tree.directory) text with
    | none => exact .written cut (fills.other _)
    | some size => exact .brokenOff cut (fills.other _)

/-- What writing comes to depends on the files alone. -/
theorem exists_lands (tree : Tree) (path : Path) (content : Value) :
    ∃ result after,
      ComesTo (writeValue path content) tree result after ∧
        Lands tree path content result after := by
  unfold writeValue
  split
  · exact exists_lands_text tree path _
  · rcases exists_comesTo_openFile tree path with
      ⟨failure, made, comesTo, changes⟩ | ⟨made, opened, comesTo, fills⟩
    · exact
        ⟨.error failure, made, comesTo.bind_of_error _, .stopped _ changes⟩
    · exact
        ⟨.error .unencodable, opened,
          comesTo.bind_of_ok (.throw opened _), .emptied _ fills⟩
  · rcases exists_comesTo_makeParent tree path with
      ⟨failure, made, comesTo, changes⟩ | ⟨made, _, comesTo, changes, _⟩
    · exact
        ⟨.error failure, made, comesTo.bind_of_error _, .stopped _ changes⟩
    · exact
        ⟨.error .mistyped, made, comesTo.bind_of_ok (.throw made _),
          .stopped _ changes⟩

/-- What writing comes to is how it lands. -/
theorem ComesTo.lands
    {tree after : Tree} {path : Path} {content : Value}
    {result : Except Failure Unit}
    (comesTo : ComesTo (writeValue path content) tree result after) :
    Lands tree path content result after := by
  obtain ⟨other, otherAfter, otherComesTo, lands⟩ :=
    exists_lands tree path content
  obtain ⟨rfl, rfl⟩ := comesTo.unique otherComesTo
  exact lands

/-- A text that was written is there when it is written again. -/
theorem Fills.perform_again
    {tree made after : Tree} {path : Path} {text : String}
    (fills : Fills tree path (.text text) made after)
    (fits : tree.cut? (path.location tree.directory) text = none)
    {session : Session} (same : session.files = after) :
    (writeText path text).perform session = (.ok (), session) := by
  subst same
  have sameDirectory := fills.changesOnly.directory
  have fitsAgain := Tree.cut?_congr fills.changesOnly.limits
  have opens := fills.again (.text "")
  rw [← sameDirectory] at opens
  have comesTo := fills.comesTo_openFile
  rw [← sameDirectory] at comesTo
  have performs := comesTo_writeText comesTo opens text session rfl
  rw [Tree.set_set, Tree.kept, fitsAgain, sameDirectory, fits] at performs
  rw [performs]
  dsimp only
  rw [fills.set_eq]

/--
What writing a text comes to, for given files: a result and the files after it.  The
directory for relative paths stays.  If the writing succeeds, files can have the path, and
the text stands at the place that the path denotes.
-/
structure Written (tree : Tree) (path : Path) (content : String)
    (result : Except Failure Unit) (after : Tree) : Prop where
  performs : ComesTo (writeText path content) tree result after
  directory : after.directory = tree.directory
  usable : result = .ok () → path.IsUsable
  stands :
    result = .ok () →
      after.get? (path.location tree.directory) =
        some (.file (.text content))

theorem exists_written (tree : Tree) (path : Path) (content : String) :
    ∃ result after, Written tree path content result after := by
  obtain ⟨result, after, comesTo, lands⟩ :=
    exists_lands_text tree path content
  refine ⟨result, after, comesTo, lands.changesOnly.directory, ?_, ?_⟩
  · rintro rfl
    cases lands with
    | written fits fills => exact fills.usable
  · rintro rfl
    cases lands with
    | written fits fills => exact fills.stands

namespace Keeps

variable {γ : Type} {view : Session → γ} (path : Path)

theorem checkPath : Keeps view (Work.checkPath path) := by
  intro session
  rcases isUsable_or_fails path with usable | ⟨failure, fails⟩
  · rw [perform_checkPath usable]
  · rw [fails session.files session rfl]

/-- What no change of files touches that keeps their directory, writing does not touch. -/
theorem writeValue_of
    (outsideFiles :
      ∀ (session : Session) (tree : Tree),
        tree.directory = session.files.directory →
          view { session with files := tree } = view session)
    (content : Value) : Keeps view (Work.writeValue path content) := by
  intro session
  obtain ⟨result, after, comesTo, lands⟩ :=
    exists_lands session.files path content
  rw [comesTo session rfl]
  exact outsideFiles session after lands.changesOnly.directory

theorem writeValue (content : Value) :
    Keeps Session.processes (Work.writeValue path content) := by
  refine writeValue_of path (fun session tree same => ?_) content
  show (tree.directory, _, _) = _
  rw [same]
  rfl

end Keeps

end Work

end NativeDeps
