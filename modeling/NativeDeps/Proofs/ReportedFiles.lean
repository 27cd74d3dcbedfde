import NativeDeps.Proofs.ManifestPlace
import NativeDeps.Proofs.RenderedExpression

/-!
# Files that are reported

Only writing and providing report that a file has been written.  When a request is meant,
its report is true: at that moment the file can be read, and it holds what the request was
to write.  A dry run writes nothing, and yet it reports the manifest that it does not
write.  This is true only where the file held the manifest before.
-/

namespace NativeDeps

open Work

/--
What a request may tell that is about to write something, in a dry run or not, and found
some files.
-/
inductive MayTell (isDryRun : Bool) (order? : Option Draft)
    (found : Files.Tree) : Occurrence → Prop
  | plain {occurrence : Occurrence}
      (isPlain : occurrence.event.isPlain = true) :
      MayTell isDryRun order? found occurrence
  | wrote {path : Files.Path} {text : String} {files : Files.Tree}
      (orders : order? = some ⟨path, .text text⟩)
      (isReal : isDryRun = false)
      (holds : files.read path = .ok (.text text)) :
      MayTell isDryRun order? found ⟨.notice (.wrote path), files⟩
  | manifest (name : Spelling) {path : Files.Path} {text : String}
      {files : Files.Tree} (orders : order? = some ⟨path, .text text⟩)
      (isReal : isDryRun = false)
      (holds : files.read path = .ok (.text text)) :
      MayTell isDryRun order? found
        ⟨.notice (.manifestWritten name path), files⟩
  | dryManifest (name : Spelling) {path : Files.Path} {text : String}
      (orders : order? = some ⟨path, .text text⟩)
      (isDry : isDryRun = true) :
      MayTell isDryRun order? found
        ⟨.notice (.manifestWritten name path), found⟩

/-- What reads like a report names the file of the order, and may be true or not. -/
theorem MayTell.report
    {isDryRun : Bool} {order? : Option Draft} {found : Files.Tree}
    {occurrence : Occurrence} {notice : Notice}
    (tells : MayTell isDryRun order? found occurrence)
    (told : occurrence.event = .notice notice)
    (reports : notice.ReportsFile) :
    ∃ path text,
      order? = some ⟨path, .text text⟩ ∧
        (notice = .wrote path ∧ isDryRun = false ∨
          ∃ name, notice = .manifestWritten name path) ∧
        (occurrence.files.read path = .ok (.text text) ↔
          isDryRun = false ∨ found.read path = .ok (.text text)) := by
  cases tells with
  | plain isPlain =>
      rw [told] at isPlain
      exact absurd reports (Notice.not_reportsFile isPlain)
  | wrote orders isReal holds =>
      obtain rfl := Event.notice.inj told
      exact
        ⟨_, _, orders, .inl ⟨rfl, isReal⟩,
          iff_of_true holds (.inl isReal)⟩
  | manifest name orders isReal holds =>
      obtain rfl := Event.notice.inj told
      exact
        ⟨_, _, orders, .inr ⟨name, rfl⟩, iff_of_true holds (.inl isReal)⟩
  | dryManifest name orders isDry =>
      obtain rfl := Event.notice.inj told
      refine ⟨_, _, orders, .inr ⟨name, rfl⟩, ?_⟩
      rw [isDry]
      exact (or_iff_right (Bool.noConfusion ·)).symm

namespace Provisioner

theorem mayTell_write
    (provisioner : Provisioner) (path : Files.Path) (content : Value)
    (session : Session) :
    TellsOnly
      (MayTell provisioner.isDryRun (some ⟨path, content⟩) session.files)
      (provisioner.write path content) session := by
  refine tellsOnly_write (fun _ => .plain rfl) ?_
  rintro text made files isReal rfl fills
  exact .wrote rfl isReal fills.reads

variable {provisioner : Provisioner} (set : DependencySet) (command : Value)
  (capturesOutput : Bool) (session : Session)

/-- An expression is reported by the writing alone, on the way into the shell. -/
theorem mayTell_provideShell (isNix : provisioner.kind = .nix) :
    TellsOnly
      (MayTell provisioner.isDryRun (provisioner.draft set).toOption
        session.files)
      (provisioner.provideShell set command capturesOutput) session := by
  rw [provideShell_eq]
  refine .ofExcept_bind fun content contains => ?_
  have drafts :
      provisioner.draft set = .ok ⟨provisioner.expressionPath, content⟩ :=
    draft_eq_ok_iff.2 ⟨target_of_nix isNix, contains⟩
  have entering :
      TellsPlainly
        (Work.checkPath provisioner.expressionPath >>= fun _ =>
          provisioner.enterShell set command capturesOutput) :=
    .bind (.of_keeps (.checkPath _)) fun _ =>
      provisioner.tellsPlainly_enterShell set command capturesOutput
  rw [drafts]
  exact
    .bind (provisioner.mayTell_write _ content session) fun _ after _ =>
      (entering after).mono fun _ => .plain

/-- A manifest is reported once more when the writing is over, even if it was a dry run. -/
theorem mayTell_writeManifest (isManifest : provisioner.kind = .manifest) :
    TellsOnly
      (MayTell provisioner.isDryRun (provisioner.draft set).toOption
        session.files)
      (provisioner.writeManifest set) session := by
  rw [writeManifest]
  refine .ofExcept_bind fun path targeted => ?_
  refine .ofExcept_bind fun content contains => ?_
  have drafts : provisioner.draft set = .ok ⟨path, content⟩ :=
    draft_eq_ok_iff.2
      ⟨(target_of_manifest isManifest).trans targeted, contains⟩
  obtain rfl : content = .text (Manifest.text set) := by
    rw [content_of_manifest isManifest] at contains
    exact (Except.ok.inj contains).symm
  rw [drafts]
  refine
    .bind (provisioner.mayTell_write path _ session) fun _ after performs => ?_
  have writes := provisioner.writes_write path (.text (Manifest.text set)) session
  rw [performs] at writes
  refine .bind (.record ?_) fun _ _ _ => .of_keeps (.pure _)
  cases writes with
  | foretold isDry => exact .dryManifest set.name rfl isDry
  | @wrote isReal _ made files isText fills =>
      cases isText
      exact .manifest set.name rfl isReal fills.reads

theorem mayTell_provision :
    TellsOnly
      (MayTell provisioner.isDryRun (provisioner.draft set).toOption
        session.files)
      (provisioner.provision set command capturesOutput) session := by
  cases kind : provisioner.kind with
  | nix =>
      rw [provision_of_nix kind]
      exact mayTell_provideShell set command capturesOutput session kind
  | manifest =>
      rw [provision_of_manifest kind, provideManifest_eq]
      split
      · refine .bind (.record (.plain rfl)) ?_
        rintro _ _ ⟨⟩
        exact mayTell_writeManifest set _ kind
      · exact mayTell_writeManifest set session kind

end Provisioner

namespace Workspace

/-- What a workspace is about to write for a name, be it meant or not. -/
def order? (workspace : Workspace) (name : Value) : Option Draft :=
  match workspace.provisioner name,
    workspace.descriptor.resolveOn workspace.host with
  | .ok provisioner, .ok set => (provisioner.draft set).toOption
  | _, _ => none

theorem tellsPlainly_summary (workspace : Workspace) :
    TellsPlainly workspace.summary :=
  .bind workspace.tellsPlainly_resolve fun _ =>
    .bind (.ofExcept _) fun _ => .pure _

theorem mayTell_provision
    (workspace : Workspace) (name command : Value) (capturesOutput : Bool)
    (session : Session) :
    TellsOnly
      (MayTell workspace.isDryRun (workspace.order? name) session.files)
      (workspace.provision name command capturesOutput) session := by
  rw [provision]
  refine .ofExcept_bind fun provisioner asked => ?_
  have resolving := workspace.tellsPlainly_resolve session
  refine .bind (resolving.mono fun _ => .plain) fun set before performs => ?_
  have resolves :
      workspace.descriptor.resolveOn workspace.host = .ok set :=
    workspace.gives_resolve session set (congrArg Prod.fst performs)
  have sameFiles : before.files = session.files := by
    have kept := Keeps.ofSurroundings workspace.keeps_resolve session
    rwa [performs] at kept
  rw [order?, asked, resolves, ← (eq_of_provisioner asked).2, ← sameFiles]
  exact Provisioner.mayTell_provision set command capturesOutput before

end Workspace

namespace Environment

variable (environment : Environment)

theorem tellsPlainly_start (settings : Settings) (detector : Detector) :
    TellsPlainly (start settings detector) := by
  have completing :
      ∀ files configuration platform facts,
        TellsPlainly
          (complete settings files configuration platform facts) := by
    intro files configuration platform facts
    exact .bind (.record rfl) fun _ => .bind (.ofExcept _) fun _ => .pure _
  rw [start_eq]
  refine .bind .files fun files => .bind (.ofExcept _) fun configuration => ?_
  refine .bind (.ofExcept _) fun _ => .bind (.ofExcept _) fun _ => ?_
  refine .ite (.bind (.ofExcept _) fun _ => .bind (.ofExcept _) fun _ => ?_) ?_
  · exact .bind (.record rfl) fun _ => completing _ _ _ _
  · exact completing _ _ _ _

theorem tellsPlainly_render : TellsPlainly environment.render :=
  .bind (.ofExcept _) fun _ =>
    .bind environment.workspace.tellsPlainly_resolve fun _ => .ofExcept _

theorem tellsPlainly_showInfo : TellsPlainly environment.showInfo :=
  .bind environment.workspace.tellsPlainly_summary fun _ =>
    .bind (.printLines _) fun _ =>
      .bind (.ofExcept _) fun _ => .bind (.ofExcept _) fun _ => .printLines _

end Environment

namespace Request

/-- Whether a request is asked of what only tells what it would do. -/
def isDryRun : Request → Bool
  | .render provisioner _ => provisioner.isDryRun
  | .write provisioner _ _ => provisioner.isDryRun
  | .run provisioner _ _ _ => provisioner.isDryRun
  | .provide provisioner _ _ _ => provisioner.isDryRun
  | .resolve workspace => workspace.isDryRun
  | .choose workspace _ => workspace.isDryRun
  | .provision workspace _ _ _ => workspace.isDryRun
  | .summarize workspace => workspace.isDryRun
  | .start settings _ => settings.isDryRun
  | .renderFor environment => environment.workspace.isDryRun
  | .shell environment _ _ => environment.workspace.isDryRun
  | .showInfo environment => environment.workspace.isDryRun

/-- What a request is about to write, be it meant or not. -/
def order? : Request → Option Draft
  | .write _ path content => some ⟨path, content⟩
  | .provide provisioner set _ _ => (provisioner.draft set).toOption
  | .provision workspace name _ _ => workspace.order? name
  | .shell environment name _ => environment.workspace.order? name
  | _ => none

/-- What a request tells, whatever it is and however it ends. -/
theorem mayTell_work (request : Request) (session : Session) :
    TellsOnly (MayTell request.isDryRun request.order? session.files)
      request.work session := by
  have plainly :
      TellsPlainly request.work →
        TellsOnly (MayTell request.isDryRun request.order? session.files)
          request.work session :=
    fun plain => (plain session).mono fun _ => .plain
  cases request with
  | render provisioner set =>
      exact plainly ((TellsPlainly.ofExcept _).change _)
  | write provisioner path content =>
      exact (provisioner.mayTell_write path content session).change _
  | run provisioner words directory capturesOutput =>
      exact
        plainly
          ((provisioner.tellsPlainly_run words directory
            capturesOutput).change _)
  | provide provisioner set command capturesOutput =>
      exact
        (Provisioner.mayTell_provision set command capturesOutput
          session).change _
  | resolve workspace =>
      exact plainly (workspace.tellsPlainly_resolve.change _)
  | choose workspace name =>
      exact plainly ((TellsPlainly.ofExcept _).change _)
  | provision workspace name command capturesOutput =>
      exact
        (workspace.mayTell_provision name command capturesOutput
          session).change _
  | summarize workspace =>
      exact plainly (workspace.tellsPlainly_summary.change _)
  | start settings detector =>
      exact
        plainly ((Environment.tellsPlainly_start settings detector).change _)
  | renderFor environment =>
      exact plainly (environment.tellsPlainly_render.change _)
  | shell environment name command =>
      have provides :=
        environment.workspace.mayTell_provision name command false session
      have tells :
          TellsOnly
            (MayTell environment.workspace.isDryRun
              (environment.workspace.order? name) session.files)
            (environment.shell name command) session :=
        provides.bind fun handle _ _ =>
          TellsOnly.change (.record (.plain rfl)) fun _ => handle
      exact tells.change _
  | showInfo environment =>
      exact plainly (environment.tellsPlainly_showInfo.change _)

end Request

/-- Something that happened while a request was done, and the files that the request found. -/
structure Telling where
  request : Request
  found : Files.Tree
  occurrence : Occurrence

namespace Session

/-- All that happens while some requests are done, each thing with its request. -/
def tellings (session : Session) : List Request → List Telling
  | [] => []
  | request :: rest =>
      let after := (request.work.perform session).2
      (after.history.drop session.history.length).map
          (⟨request, session.files, ·⟩) ++
        after.tellings rest

/-- Each thing that a request adds to the history may be told by this request. -/
theorem history_after (session : Session) (requests : List Request) :
    (session.after requests).history =
        session.history ++
          (session.tellings requests).map Telling.occurrence ∧
      ∀ telling ∈ session.tellings requests,
        telling.request ∈ requests ∧
          MayTell telling.request.isDryRun telling.request.order?
            telling.found telling.occurrence := by
  induction requests generalizing session with
  | nil => exact ⟨(List.append_nil _).symm, List.forall_mem_nil _⟩
  | cons request rest induction =>
      obtain ⟨added, history, tells⟩ := request.mayTell_work session
      obtain ⟨longer, others⟩ := induction (request.work.perform session).2
      have own :
          (request.work.perform session).2.history.drop
              session.history.length = added := by
        rw [history, List.drop_left]
      rw [tellings, own]
      refine ⟨?_, List.forall_mem_append.2 ⟨?_, ?_⟩⟩
      · rw [after, longer, history, List.map_append, List.map_map,
          List.append_assoc]
        congr 2
        exact (List.map_id _).symm
      · rw [List.forall_mem_map]
        intro occurrence member
        exact ⟨List.mem_cons_self, tells occurrence member⟩
      · intro telling member
        obtain ⟨asked, mayTell⟩ := others telling member
        exact ⟨List.mem_cons_of_mem _ asked, mayTell⟩

/--
Whatever requests are done, what reads like the report of a written file names the file
that its request was to write.  The report is true exactly if the request is meant, or the
file held the same before.  So only a dry run can report what did not happen, and that of
a manifest.
-/
theorem report_holds_iff (session : Session) (requests : List Request) :
    (session.after requests).history =
        session.history ++
          (session.tellings requests).map Telling.occurrence ∧
      ∀ telling ∈ session.tellings requests,
        telling.request ∈ requests ∧
          ∀ notice,
            telling.occurrence.event = .notice notice →
              notice.ReportsFile →
                ∃ path text,
                  telling.request.order? = some ⟨path, .text text⟩ ∧
                    (notice = .wrote path ∧
                        telling.request.isDryRun = false ∨
                      ∃ name, notice = .manifestWritten name path) ∧
                    (telling.occurrence.files.read path =
                        .ok (.text text) ↔
                      telling.request.isDryRun = false ∨
                        telling.found.read path = .ok (.text text)) := by
  obtain ⟨history, tells⟩ := session.history_after requests
  refine ⟨history, fun telling member => ?_⟩
  obtain ⟨asked, mayTell⟩ := tells telling member
  exact ⟨asked, fun notice told reports => mayTell.report told reports⟩

end Session

namespace Request

/-- A manifest with one dependency is to be provided, or a dry run is to tell of it. -/
def provideSmall (isDryRun : Bool) : Request :=
  .provide (.make .manifest (.mapping []) (.ofString "work") isDryRun)
    Provisioner.smallSet .null false

/-- Behind the request that is meant, the dry run reports what has already happened. -/
theorem report_holds_in_second_dry_run :
    let path := .ofString "work/environment-manifest.yaml"
    ∃ telling ∈
        (Session.inEmptyHome []).tellings
          [provideSmall false, provideSmall true],
      telling.request.isDryRun = true ∧
        telling.occurrence.event =
          .notice (.manifestWritten "demo" path) ∧
        telling.occurrence.files.read path =
          .ok (.text (Manifest.text Provisioner.smallSet)) := by
  intro path
  have exists_telling :
      ∃ telling,
        ((Session.inEmptyHome []).tellings
            [provideSmall false, provideSmall true])[3]? = some telling ∧
          telling.request.isDryRun = true ∧
          telling.request.order? =
            some ⟨path, .text (Manifest.text Provisioner.smallSet)⟩ ∧
          telling.occurrence.event =
            .notice (.manifestWritten "demo" path) ∧
          telling.found.read path =
            .ok (.text (Manifest.text Provisioner.smallSet)) :=
    ⟨_, rfl, rfl, rfl, rfl, rfl⟩
  obtain ⟨telling, isFourth, isDry, orders, told, found⟩ := exists_telling
  have member := List.mem_of_getElem? isFourth
  have reports := (Session.report_holds_iff _ _).2 telling member
  obtain ⟨_, _, ordered, _, holds_iff⟩ :=
    reports.2 _ told (Notice.reportsFile rfl)
  cases orders.symm.trans ordered
  exact ⟨telling, member, isDry, told, holds_iff.2 (.inr found)⟩

/-- In an empty directory a dry run reports a manifest, and there is none. -/
theorem dry_manifest_is_reported :
    let path := .ofString "work/environment-manifest.yaml"
    ∃ files,
      (provideSmall true).order? =
          some ⟨path, .text (Manifest.text Provisioner.smallSet)⟩ ∧
        ((Session.inEmptyHome []).after [provideSmall true]).history[1]? =
          some ⟨.notice (.manifestWritten "demo" path), files⟩ ∧
        files.read path = .error .missing :=
  ⟨_, rfl, rfl, rfl⟩

end Request

end NativeDeps
