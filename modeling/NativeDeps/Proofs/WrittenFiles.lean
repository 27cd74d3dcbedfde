import NativeDeps.Proofs.Request

/-!
# Files that requests fill

Of all that can be asked, only writing and providing fill files.  A request fills the
file that its draft names, or it is stopped before that and fills none.  So after any
requests a file holds what the last one left there that came to fill it, whatever failed
before or after that, and where nothing was filled there may only be a directory that was
missing.

Filling is not yet success.  A text with halves of characters leaves its file empty, a
file that takes only the beginning of a text is left with that, and a shell may fail when
its expression stands there.
-/

namespace NativeDeps

open Work

namespace Draft

variable {draft : Draft} {tree other : Files.Tree} {content : Files.Content}

/-- What a draft leaves in a file that is opened for it; only for a text one is opened. -/
def left? (draft : Draft) (tree : Files.Tree) : Option Files.Content :=
  match draft.content with
  | .text text => some (tree.kept (draft.path.location tree.directory) text)
  | .halves _ => some (.text "")
  | _ => none

/--
What a draft leaves in its file, and whether that is all of it: the text itself, the
beginning of it that the file can take, or nothing of what has halves of characters.
-/
inductive Leaves (draft : Draft) (tree : Files.Tree) :
    Files.Content → Bool → Prop
  | whole {text : String} (isText : draft.content = .text text)
      (fits :
        tree.cut? (draft.path.location tree.directory) text = none) :
      Leaves draft tree (.text text) true
  | beginning {text : String} {size : Nat}
      (isText : draft.content = .text text)
      (cut :
        tree.cut? (draft.path.location tree.directory) text = some size) :
      Leaves draft tree (.beginning text size) false
  | nothing {spelling : Spelling} {isBroken : spelling.text? = none}
      (isHalved : draft.content = @Value.halves spelling isBroken) :
      Leaves draft tree (.text "") false

/-- What a draft leaves is a matter of the directory and of how much files can take. -/
theorem Leaves.congr
    {isComplete : Bool} (leaves : draft.Leaves tree content isComplete)
    (sameDirectory : tree.directory = other.directory)
    (sameLimits : tree.limits = other.limits) :
    draft.Leaves other content isComplete := by
  cases leaves with
  | whole isText fits =>
      refine .whole isText ?_
      rw [← sameDirectory, ← fits]
      exact (Files.Tree.cut?_congr sameLimits _ _).symm
  | beginning isText cut =>
      refine .beginning isText ?_
      rw [← sameDirectory, ← cut]
      exact (Files.Tree.cut?_congr sameLimits _ _).symm
  | nothing isHalved => exact .nothing isHalved

/-- The file of a draft is opened and left with something, or the work is stopped before. -/
theorem stopped_or_left
    (left : draft.left? tree = some content) :
    (∃ failure made,
      ComesTo (openFile draft.path) tree (.error failure) made ∧
        ComesTo (writeValue draft.path draft.content) tree (.error failure)
          made ∧
        tree.ChangesOnly Files.Tree.noTarget
          (draft.path.parent.LeadsThrough tree.directory) made) ∨
      ∃ made opened result after,
        ComesTo (openFile draft.path) tree (.ok ()) opened ∧
          ComesTo (writeValue draft.path draft.content) tree result after ∧
          draft.Leaves tree content result.isOk ∧
          Fills tree draft.path content made after := by
  rcases draft with ⟨path, value⟩
  rcases exists_comesTo_openFile tree path with
    ⟨failure, made, opens, changes⟩ | ⟨made, opened, opens, fills⟩
  · refine .inl ⟨failure, made, opens, ?_, changes⟩
    cases value with
    | text text => exact opens.bind_of_error _
    | halves spelling => exact opens.bind_of_error _
    | _ => cases left
  · refine .inr ⟨made, opened, ?_⟩
    cases value with
    | text text =>
        obtain rfl := Option.some.inj left
        refine ⟨_, _, opens, comesTo_writeText opens fills text, ?_, fills.other _⟩
        rw [Files.Tree.kept]
        dsimp only
        cases cut : tree.cut? (path.location tree.directory) text with
        | none => exact .whole rfl cut
        | some size => exact .beginning rfl cut
    | halves spelling =>
        obtain rfl := Option.some.inj left
        exact
          ⟨_, _, opens, opens.bind_of_ok (.throw opened .unencodable),
            .nothing rfl, fills⟩
    | _ => cases left

end Draft

namespace Request

/-- What a request is about to write, if it is meant to write and it is known what. -/
def draft? : Request → Option Draft
  | .write provisioner path content =>
      if provisioner.isDryRun then none else some ⟨path, content⟩
  | .provide provisioner set _ _ => provisioner.draft? set
  | .provision workspace name _ _ => workspace.draft? name
  | .shell environment name _ => environment.workspace.draft? name
  | _ => none

/-- A request asks a provisioner to provide a set. -/
inductive Provides : Request → Provisioner → DependencySet → Prop
  | provide (provisioner : Provisioner) (set : DependencySet)
      (command : Value) (capturesOutput : Bool) :
      Provides (.provide provisioner set command capturesOutput) provisioner
        set
  | provision {workspace : Workspace} {name : Value}
      {provisioner : Provisioner} {set : DependencySet}
      (asked : workspace.provisioner name = .ok provisioner)
      (resolves : workspace.descriptor.resolveOn workspace.host = .ok set)
      (command : Value) (capturesOutput : Bool) :
      Provides (.provision workspace name command capturesOutput) provisioner
        set
  | shell {environment : Environment} {name : Value}
      {provisioner : Provisioner} {set : DependencySet}
      (asked : environment.workspace.provisioner name = .ok provisioner)
      (resolves :
        environment.workspace.descriptor.resolveOn
          environment.workspace.host = .ok set)
      (command : Value) :
      Provides (.shell environment name command) provisioner set

variable {request : Request} {session : Session} {draft : Draft}

theorem Provides.draft?_eq
    {provisioner : Provisioner} {set : DependencySet}
    (provides : request.Provides provisioner set) :
    request.draft? = provisioner.draft? set := by
  cases provides with
  | provide => rfl
  | provision asked resolves =>
      rw [draft?, Workspace.draft?, asked, resolves]
  | shell asked resolves => rw [draft?, Workspace.draft?, asked, resolves]

/-- A request without a draft touches no file. -/
theorem keeps_files_work (drafts : request.draft? = none) :
    Keeps Session.files request.work := by
  cases request with
  | render provisioner set => exact (Keeps.ofExcept _).change _
  | write provisioner path content =>
      have isDry : provisioner.isDryRun = true := by
        by_contra isReal
        rw [draft?, if_neg isReal] at drafts
        cases drafts
      refine .change ?_ _
      rw [Provisioner.write, if_pos isDry]
      exact .ofSurroundings (.tell _)
  | run provisioner words directory capturesOutput =>
      have keepsRunning :
          Keeps Session.files
            (provisioner.run words directory capturesOutput) :=
        Provisioner.keeps_run_of (fun _ => .ofSurroundings (.tell _))
          .call_files provisioner words directory capturesOutput
      exact keepsRunning.change _
  | provide provisioner set command capturesOutput =>
      exact
        (Provisioner.keeps_files_provision drafts command
          capturesOutput).change _
  | resolve workspace =>
      exact (Keeps.ofSurroundings workspace.keeps_resolve).change _
  | choose workspace name => exact (Keeps.ofExcept _).change _
  | provision workspace name command capturesOutput =>
      exact
        (Workspace.keeps_files_provision drafts command
          capturesOutput).change _
  | summarize workspace =>
      exact (Keeps.ofSurroundings workspace.keeps_summary).change _
  | start settings detector =>
      exact
        (Keeps.ofSurroundings
          (Environment.keeps_start settings detector)).change _
  | renderFor environment =>
      exact (Keeps.ofSurroundings environment.keeps_render).change _
  | shell environment name command =>
      have keepsProviding :
          Keeps Session.files
            (environment.workspace.provision name command false) :=
        Workspace.keeps_files_provision drafts command false
      have keepsShell : Keeps Session.files (environment.shell name command) :=
        keepsProviding.bind fun handle =>
          .bind (.ofSurroundings (.tell _)) fun _ => .pure handle
      exact keepsShell.change _
  | showInfo environment =>
      exact (Keeps.ofSurroundings environment.keeps_showInfo).change _

/-- A request with a draft delivers it. -/
theorem delivers_work (drafts : request.draft? = some draft) :
    Delivers draft request.work := by
  cases request with
  | write provisioner path content =>
      rw [draft?] at drafts
      split_ifs at drafts with isDry
      cases drafts
      exact .write (eq_false_of_ne_true isDry) fun _ => .pure _
  | provide provisioner set command capturesOutput =>
      obtain ⟨isReal, drafts⟩ := Provisioner.draft?_eq_some_iff.1 drafts
      exact
        (Provisioner.delivers_provision isReal drafts command
          capturesOutput).bind fun _ => .pure _
  | provision workspace name command capturesOutput =>
      exact
        (Workspace.delivers_provision drafts command capturesOutput).bind
          fun _ => .pure _
  | shell environment name command =>
      have delivers : Delivers draft (environment.shell name command) :=
        (Workspace.delivers_provision drafts command false).bind
          fun handle => .bind (.ofSurroundings (.tell _)) fun _ => .pure handle
      exact delivers.bind fun _ => .pure _
  | _ => cases drafts

/-- A place is on the way to the file that a request is about to write. -/
def LeadsToTarget (request : Request) (directory place : Files.Location) :
    Prop :=
  ∃ draft,
    request.draft? = some draft ∧ draft.path.parent.LeadsThrough directory place

end Request

/--
A file that a request has filled: its place, what was left there, and whether the request
could write all that it was to write.
-/
structure Fill where
  request : Request
  place : Files.Location
  content : Files.Content
  isComplete : Bool

/-- A file is filled with the draft of its request. -/
structure Fill.Holds (fill : Fill) (tree : Files.Tree) (draft : Draft) :
    Prop where
  drafts : fill.request.draft? = some draft
  place : fill.place = draft.path.location tree.directory
  leaves : draft.Leaves tree fill.content fill.isComplete

/--
A file is the target of a provisioner.  A complete one holds what the provisioner renders
for a set; another one is empty, because there are halves of characters in that, or holds
only the beginning of it that the file can take.
-/
structure Fill.Renders (fill : Fill) (tree : Files.Tree)
    (provisioner : Provisioner) (set : DependencySet) : Prop where
  isReal : provisioner.isDryRun = false
  place :
    ∃ path,
      provisioner.target = .ok path ∧
        fill.place = path.location tree.directory
  complete :
    fill.isComplete = true →
      ∃ text : String,
        provisioner.render set = .ok text ∧ fill.content = .text text
  incomplete :
    fill.isComplete = false →
      ∃ rendering,
        provisioner.render set = .ok rendering ∧
          (¬ rendering.IsWhole ∧ fill.content = .text "" ∨
            ∃ (text : String) (size : Nat),
              rendering = text ∧ tree.cut? fill.place text = some size ∧
                fill.content = .beginning text size)

theorem Fill.Holds.renders
    {fill : Fill} {tree : Files.Tree} {draft : Draft}
    {provisioner : Provisioner} {set : DependencySet}
    (holds : fill.Holds tree draft)
    (provides : fill.request.Provides provisioner set) :
    fill.Renders tree provisioner set := by
  rcases fill with ⟨request, place, content, isComplete⟩
  rcases holds with ⟨drafts, isPlace, leaves⟩
  dsimp only at drafts isPlace leaves provides
  rw [provides.draft?_eq, Provisioner.draft?_eq_some_iff] at drafts
  rcases drafts with ⟨isReal, drafts⟩
  obtain ⟨targeted, contains⟩ := Provisioner.draft_eq_ok_iff.1 drafts
  obtain ⟨rendering, rendered, isSpelt⟩ :=
    Provisioner.content_eq_ok_iff.1 contains
  refine ⟨isReal, ⟨draft.path, targeted, isPlace⟩, ?_, ?_⟩
  · intro complete
    cases leaves with
    | whole isText fits =>
        rw [isText] at isSpelt
        obtain rfl := Value.ofSpelling_eq_text_iff.1 isSpelt.symm
        exact ⟨_, rendered, rfl⟩
    | beginning _ _ => cases complete
    | nothing _ => cases complete
  · intro incomplete
    refine ⟨rendering, rendered, ?_⟩
    cases leaves with
    | whole _ _ => cases incomplete
    | beginning isText cut =>
        rw [isText] at isSpelt
        have isWhole := Value.ofSpelling_eq_text_iff.1 isSpelt.symm
        exact .inr ⟨_, _, isWhole, by rw [← cut, isPlace], rfl⟩
    | nothing isHalved =>
        rw [isHalved] at isSpelt
        refine .inl ⟨fun isWhole => ?_, rfl⟩
        obtain ⟨text, rfl⟩ := Spelling.isWhole_iff.1 isWhole
        rw [Value.ofSpelling_ofText] at isSpelt
        cases isSpelt

namespace Request

variable {request : Request} {session : Session}

/-- The file that a request fills, if it comes to that. -/
def fill? (request : Request) (session : Session) : Option Fill := do
  let draft ← request.draft?
  let content ← draft.left? session.files
  match ((openFile draft.path).perform session).1 with
  | .ok () =>
      let written := (writeValue draft.path draft.content).perform session
      return {
        request := request
        place := draft.path.location session.files.directory
        content := content
        isComplete := written.1.isOk }
  | .error _ => none

theorem fill?_eq
    {draft : Draft} {content : Files.Content}
    (drafts : request.draft? = some draft) {session : Session}
    (left : draft.left? session.files = some content) :
    request.fill? session =
      match ((openFile draft.path).perform session).1 with
      | .ok () =>
          some
            ⟨request, draft.path.location session.files.directory, content,
              ((writeValue draft.path draft.content).perform
                session).1.isOk⟩
      | .error _ => none := by
  rw [fill?, drafts]
  show (draft.left? session.files >>= fun _ => _) = _
  rw [left]
  rfl

/-- A request fills no file, and makes at most directories on the way to one. -/
def FillsNone (request : Request) (session : Session) : Prop :=
  request.fill? session = none ∧
    session.files.ChangesOnly Files.Tree.noTarget
      (request.LeadsToTarget session.files.directory)
      (request.work.perform session).2.files

/-- A request fills a file with what its draft leaves there. -/
def FillsOne (request : Request) (session : Session) : Prop :=
  ∃ draft content isComplete made,
    request.draft? = some draft ∧
      draft.Leaves session.files content isComplete ∧
      request.fill? session =
        some
          ⟨request, draft.path.location session.files.directory, content,
            isComplete⟩ ∧
      Fills session.files draft.path content made
        (request.work.perform session).2.files

theorem fillsNone_or_fillsOne (request : Request) (session : Session) :
    request.FillsNone session ∨ request.FillsOne session := by
  cases drafts : request.draft? with
  | none =>
      refine .inl ⟨by rw [fill?, drafts]; rfl, ?_⟩
      rw [keeps_files_work drafts session]
      exact .refl _
  | some draft =>
      obtain ⟨written, comesTo, _⟩ := delivers_work drafts session
      have onTheWay :
          ∀ made,
            session.files.ChangesOnly Files.Tree.noTarget
                (draft.path.parent.LeadsThrough session.files.directory)
                made →
              session.files.ChangesOnly Files.Tree.noTarget
                (request.LeadsToTarget session.files.directory) made :=
        fun made changes =>
          changes.mono (fun _ target => target) fun place leads =>
            ⟨draft, drafts, leads⟩
      cases left : draft.left? session.files with
      | none =>
          refine .inl ⟨?_, ?_⟩
          · rw [fill?, drafts]
            show (draft.left? session.files >>= fun _ => _) = _
            rw [left]
            rfl
          · have lands := comesTo.lands
            rw [Draft.left?] at left
            generalize draft.content = content at left lands
            cases lands with
            | stopped _ changes => exact onTheWay _ changes
            | written fits fills => cases left
            | brokenOff cut fills => cases left
            | emptied isBroken fills => cases left
      | some content =>
          have filled := fill?_eq drafts left
          rcases draft.stopped_or_left left with
            ⟨failure, made, opens, stops, changes⟩ |
              ⟨made, opened, result, after, opens, writes, leaves, fills⟩
          · obtain ⟨_, same⟩ := comesTo.unique stops
            rw [opens session rfl] at filled
            rw [← same] at changes
            exact .inl ⟨filled, onTheWay _ changes⟩
          · obtain ⟨_, same⟩ := comesTo.unique writes
            rw [opens session rfl, writes session rfl] at filled
            rw [← same] at fills
            exact .inr ⟨draft, content, _, made, drafts, leaves, filled, fills⟩

theorem changesOnly_work (request : Request) (session : Session) :
    session.files.ChangesOnly
      (fun place => ∃ fill, request.fill? session = some fill ∧ fill.place = place)
      (request.LeadsToTarget session.files.directory)
      (request.work.perform session).2.files := by
  rcases request.fillsNone_or_fillsOne session with
    ⟨_, changes⟩ | ⟨draft, content, isComplete, made, drafts, _, filled, fills⟩
  · exact changes.mono nofun fun _ leads => leads
  · refine fills.changesOnly.mono ?_ fun place leads => ⟨draft, drafts, leads⟩
    rintro place rfl
    exact ⟨_, filled, rfl⟩

theorem get?_work_of_fill?
    {fill : Fill} (fills : request.fill? session = some fill) :
    (request.work.perform session).2.files.get? fill.place =
      some (.file fill.content) := by
  rcases request.fillsNone_or_fillsOne session with
    ⟨none, _⟩ | ⟨draft, content, isComplete, made, _, _, filled, stands⟩
  · rw [none] at fills
    cases fills
  · rw [filled] at fills
    cases fills
    exact stands.stands

/-- What a request fills is its draft. -/
theorem eq_of_fill?
    {fill : Fill} (fills : request.fill? session = some fill) :
    fill.request = request ∧ ∃ draft, fill.Holds session.files draft := by
  rcases request.fillsNone_or_fillsOne session with
    ⟨none, _⟩ | ⟨draft, content, isComplete, made, drafts, leaves, filled, _⟩
  · rw [none] at fills
    cases fills
  · rw [filled] at fills
    cases fills
    exact ⟨rfl, draft, drafts, rfl, leaves⟩

/-- A request that gave a handle changes no file when it is asked again. -/
theorem files_work_again
    {handle : Option Handle}
    (gives : (request.work.perform session).1 = .ok handle) :
    (request.work.perform (request.work.perform session).2).2.files =
      (request.work.perform session).2.files := by
  cases drafts : request.draft? with
  | none => exact keeps_files_work drafts _
  | some draft =>
      obtain ⟨written, comesTo, onlyIf⟩ := delivers_work drafts session
      obtain ⟨again, comesAgain, _⟩ :=
        delivers_work drafts (request.work.perform session).2
      obtain rfl := onlyIf handle gives
      rcases draft with ⟨path, content⟩
      cases comesTo.lands with
      | written fits fills =>
          have stays := fills.perform_again fits rfl
          rw [show (writeText path _).perform _ = _ from comesAgain _ rfl]
            at stays
          exact congrArg (fun ended => ended.2.files) stays

end Request

namespace Session

/-- The files that requests fill, in the order in which they are filled. -/
def fills (session : Session) : List Request → List Fill
  | [] => []
  | request :: rest =>
      (request.fill? session).toList ++
        fills (request.work.perform session).2 rest

/-- The last time that requests fill the file at a place. -/
def lastFill? (session : Session) (requests : List Request)
    (place : Files.Location) : Option Fill :=
  (session.fills requests).reverse.find? (·.place == place)

/-- A place is the one of a file that requests fill. -/
def IsFilled (session : Session) (requests : List Request)
    (place : Files.Location) : Prop :=
  ∃ fill ∈ session.fills requests, fill.place = place

/-- A place is on the way to a file that one of some requests is about to write. -/
def LeadsToTarget (session : Session) (requests : List Request)
    (place : Files.Location) : Prop :=
  ∃ request ∈ requests, request.LeadsToTarget session.files.directory place

variable {session : Session} {request : Request} {requests : List Request}
  {place : Files.Location} {fill : Fill}

theorem mem_fills_cons :
    fill ∈ session.fills (request :: requests) ↔
      request.fill? session = some fill ∨
        fill ∈ (request.work.perform session).2.fills requests := by
  rw [fills, List.mem_append, Option.mem_toList]

theorem lastFill?_cons :
    session.lastFill? (request :: requests) place =
      ((request.work.perform session).2.lastFill? requests place).or
        ((request.fill? session).filter (·.place == place)) := by
  rw [lastFill?, fills, List.reverse_append, List.find?_append]
  cases filled : request.fill? session with
  | none => rfl
  | some fill => simp [lastFill?, Option.filter, List.find?_singleton]

theorem not_isFilled_of_lastFill?
    (none : session.lastFill? requests place = none) :
    ¬ session.IsFilled requests place := by
  rintro ⟨fill, member, isThere⟩
  have differs :=
    List.find?_eq_none.1 none fill (List.mem_reverse.2 member)
  exact differs (beq_iff_eq.2 isThere)

theorem directory_work (request : Request) (session : Session) :
    (request.work.perform session).2.files.directory =
      session.files.directory :=
  (request.changesOnly_work session).directory

/-- Requests change files where they fill them, and make directories on the way there. -/
theorem changesOnly_after (session : Session) (requests : List Request) :
    session.files.ChangesOnly (session.IsFilled requests)
      (session.LeadsToTarget requests) (session.after requests).files := by
  induction requests generalizing session with
  | nil => exact .refl _
  | cons request rest induction =>
      have first := request.changesOnly_work session
      have further := induction (request.work.perform session).2
      refine (first.mono ?_ ?_).trans (further.mono ?_ ?_)
      · rintro place ⟨fill, filled, isThere⟩
        exact ⟨fill, mem_fills_cons.2 (.inl filled), isThere⟩
      · intro place leads
        exact ⟨request, List.mem_cons_self, leads⟩
      · rintro place ⟨fill, member, isThere⟩
        exact ⟨fill, mem_fills_cons.2 (.inr member), isThere⟩
      · rintro place ⟨other, member, leads⟩
        rw [directory_work] at leads
        exact ⟨other, List.mem_cons_of_mem _ member, leads⟩

/-- What the last request left that filled a file stands there. -/
theorem get?_after_of_lastFill?
    (last : session.lastFill? requests place = some fill) :
    (session.after requests).files.get? place =
      some (.file fill.content) := by
  induction requests generalizing session with
  | nil => cases last
  | cons request rest induction =>
      rw [lastFill?_cons] at last
      cases later :
          (request.work.perform session).2.lastFill? rest place with
      | some other =>
          rw [later] at last
          cases last
          exact induction later
      | none =>
          rw [later, Option.none_or, Option.filter_eq_some_iff] at last
          rcases last with ⟨filled, isThere⟩
          have stands := Request.get?_work_of_fill? filled
          rw [beq_iff_eq.1 isThere] at stands
          exact
            (changesOnly_after _ rest).get?_eq_some stands
              (not_isFilled_of_lastFill? later)

/-- Each file is filled by one of the requests, with its draft. -/
theorem mem_requests_of_mem_fills (member : fill ∈ session.fills requests) :
    fill.request ∈ requests ∧ ∃ draft, fill.Holds session.files draft := by
  induction requests generalizing session with
  | nil => cases member
  | cons request rest induction =>
      rcases mem_fills_cons.1 member with filled | member
      · obtain ⟨same, holds⟩ := Request.eq_of_fill? filled
        exact ⟨same ▸ List.mem_cons_self, holds⟩
      · obtain ⟨asked, draft, drafts, isPlace, leaves⟩ := induction member
        rw [directory_work] at isPlace
        exact
          ⟨List.mem_cons_of_mem _ asked, draft, drafts, isPlace,
            leaves.congr (directory_work request session)
              (request.changesOnly_work session).limits⟩

theorem after_append (session : Session) (requests others : List Request) :
    session.after (requests ++ others) =
      (session.after requests).after others := by
  induction requests generalizing session with
  | nil => rfl
  | cons request rest induction => exact induction _

/--
After any requests, whatever the processes that they start come to, files differ from
those before only where a request has filled one, and by directories on the way there.
What stands there is what the last one left that filled it, which for a provision that
could write it all is what its provisioner renders for its set.  A request that gave a
handle changes no file when it is asked again.
-/
theorem requests_fill_files (session : Session) (requests : List Request) :
    session.files.ChangesOnly (session.IsFilled requests)
        (session.LeadsToTarget requests) (session.after requests).files ∧
      (∀ place fill,
        session.lastFill? requests place = some fill →
          (session.after requests).files.get? place =
            some (.file fill.content)) ∧
      (∀ fill ∈ session.fills requests,
        fill.request ∈ requests ∧
          (∃ draft, fill.Holds session.files draft) ∧
          ∀ provisioner set,
            fill.request.Provides provisioner set →
              fill.Renders session.files provisioner set) ∧
      ∀ request handle,
        (request.work.perform (session.after requests)).1 =
            .ok (some handle) →
          (session.after (requests ++ [request, request])).files =
            (session.after (requests ++ [request])).files := by
  refine ⟨session.changesOnly_after requests, ?_, ?_, ?_⟩
  · intro place fill last
    exact get?_after_of_lastFill? last
  · intro fill member
    obtain ⟨asked, draft, holds⟩ := mem_requests_of_mem_fills member
    exact
      ⟨asked, ⟨draft, holds⟩, fun _ _ provides => holds.renders provides⟩
  · intro request handle gives
    rw [after_append, after_append]
    exact Request.files_work_again gives

/-- A workspace whose provisioners share a file, and whose packages have half a character. -/
def sharedWorkspace : Workspace :=
  .withSettings
    [(.text "manifest", .mapping [(.text "filename", .text "shell.nix")]),
      (.text "nix", .mapping [(.text "package_set", .ofSpelling .lone)])]

/-- The expression that cannot be written empties the manifest that was written before. -/
theorem halved_packages_empty_manifest :
    let manifest :=
      Request.provision sharedWorkspace (.text "manifest") .null false
    let expression :=
      Request.provision sharedWorkspace (.text "nix") .null false
    let place : Files.Location := ["home", "work", "shell.nix"]
    let written := (Session.inEmptyHome []).after [manifest]
    let emptied := (Session.inEmptyHome []).after [manifest, expression]
    (manifest.work.perform (.inEmptyHome [])).1.toOption.isSome = true ∧
      written.files.get? place =
        some
          (.file
            (.text (Manifest.text ⟨"demo", some "linux", [⟨"zlib", none⟩]⟩))) ∧
      (expression.work.perform written).1.toOption.isSome = false ∧
      emptied.files.get? place = some (.file (.text "")) := by
  decide +kernel

end Session

end NativeDeps
