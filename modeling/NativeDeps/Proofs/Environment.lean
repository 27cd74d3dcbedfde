import NativeDeps.Environment
import NativeDeps.Proofs.Workspace

/-!
# Environments at work

An environment only adds to its workspace what it tells and prints, and setting one up
only reads files.  So nothing but the shell changes files or starts processes, and the
shell is the provision of the workspace.
-/

namespace NativeDeps

namespace Environment

open Work

/-- The environment that only tells what this one would do. -/
def dry (environment : Environment) : Environment :=
  { environment with workspace := environment.workspace.dry }

variable (environment : Environment) (provisioner command : Value)

/-- What telling leaves alone, is left alone by rendering. -/
theorem keeps_render_of_tell {γ : Type} {view : Session → γ}
    (tells : ∀ notice, Keeps view (Work.tell notice)) :
    Keeps view environment.render :=
  .bind (.ofExcept _) fun _ =>
    .bind (environment.workspace.keeps_resolve_of_tell tells) fun _ =>
      .ofExcept _

theorem keeps_render : Keeps Session.surroundings environment.render :=
  environment.keeps_render_of_tell .tell

theorem keeps_showInfo : Keeps Session.surroundings environment.showInfo :=
  .bind environment.workspace.keeps_summary fun _ =>
    .bind (.printLines _) fun _ =>
      .bind (.ofExcept _) fun _ => .bind (.ofExcept _) fun _ => .printLines _

/-- The directory of the project, which is the current one unless another one is named. -/
def rootOf (settings : Settings) (files : Files.Tree) : Files.Path :=
  settings.root.getD (.ofLocation files.directory)

/-- The environment that is set up for a platform, when its directory is known. -/
def inDirectory (settings : Settings) (files : Files.Tree)
    (configuration : Configuration) (platform facts : Value)
    (directory : Files.Path) : Environment :=
  ⟨⟨configuration, platform, directory, settings.isDryRun⟩, facts,
    rootOf settings files⟩

/-- What is left to set up when the platform has been looked at. -/
def complete (settings : Settings) (files : Files.Tree)
    (configuration : Configuration) (platform facts : Value) :
    Work Environment := do
  Work.tell (.platformFacts facts)
  let directory ←
    Work.ofExcept
      (directoryOf configuration (rootOf settings files) settings.directory)
  return inDirectory settings files configuration platform facts directory

theorem start_eq (settings : Settings) (detector : Detector) :
    start settings detector = (do
      let files ← Work.files
      let configuration ←
        Work.ofExcept (Configuration.load files settings.configuration)
      let (platform, facts) ←
        Work.ofExcept (platformOf configuration settings.platform detector)
      let isKnown ← Work.ofExcept (configuration.isKnown platform)
      if !isKnown then
        let names ← Work.ofExcept configuration.platformNames
        let known ← Work.ofExcept (Value.toSpellings names)
        Work.tell (.unrecognized platform.asText known)
        complete settings files configuration platform facts
      else
        complete settings files configuration platform facts) :=
  rfl

/-- To set up an environment is to read files, and to tell what was found. -/
theorem keeps_start_of_tell {γ : Type} {view : Session → γ}
    (tells : ∀ notice, Keeps view (Work.tell notice)) (settings : Settings)
    (detector : Detector) : Keeps view (start settings detector) := by
  have keepsCompleting :
      ∀ files configuration platform facts,
        Keeps view
          (complete settings files configuration platform facts) := by
    intro files configuration platform facts
    exact .bind (tells _) fun _ => .bind (.ofExcept _) fun _ => .pure _
  rw [start_eq]
  refine .bind .files fun files => .bind (.ofExcept _) fun configuration => ?_
  refine .bind (.ofExcept _) fun _ => .bind (.ofExcept _) fun _ => ?_
  refine .ite (.bind (.ofExcept _) fun _ => .bind (.ofExcept _) fun _ => ?_) ?_
  · exact .bind (tells _) fun _ => keepsCompleting _ _ _ _
  · exact keepsCompleting _ _ _ _

theorem keeps_start (settings : Settings) (detector : Detector) :
    Keeps Session.surroundings (start settings detector) :=
  keeps_start_of_tell .tell settings detector

/--
What is told about a platform: a warning with the platforms that are known, where it is
none of them, and then what is known about it.
-/
inductive Tells (configuration : Configuration) (platform facts : Value)
    (session : Session) : Session → Prop
  | known (isKnown : configuration.isKnown platform = .ok true) :
      Tells configuration platform facts session
        (session.add (.notice (.platformFacts facts)))
  | unknown {values : List Value} {names : List Spelling}
      (isUnknown : configuration.isKnown platform = .ok false)
      (listed : configuration.platformNames = .ok values)
      (named : Value.toSpellings values = .ok names) :
      Tells configuration platform facts session
        ((session.add (.notice (.unrecognized platform.asText names))).add
          (.notice (.platformFacts facts)))

theorem Tells.surroundings
    {configuration : Configuration} {platform facts : Value}
    {session after : Session}
    (tells : Tells configuration platform facts session after) :
    after.surroundings = session.surroundings := by
  cases tells with
  | known _ => exact Session.surroundings_add _ rfl
  | unknown _ _ _ =>
      exact
        (Session.surroundings_add _ rfl).trans
          (Session.surroundings_add _ rfl)

theorem Tells.exists_isKnown
    {configuration : Configuration} {platform facts : Value}
    {session after : Session}
    (tells : Tells configuration platform facts session after) :
    ∃ isKnown, configuration.isKnown platform = .ok isKnown := by
  cases tells with
  | known isKnown => exact ⟨true, isKnown⟩
  | unknown isUnknown _ _ => exact ⟨false, isUnknown⟩

theorem Tells.exists_names
    {configuration : Configuration} {platform facts : Value}
    {session after : Session}
    (tells : Tells configuration platform facts session after)
    (isUnknown : configuration.isKnown platform = .ok false) :
    ∃ values names,
      configuration.platformNames = .ok values ∧
        Value.toSpellings values = .ok names := by
  cases tells with
  | known isKnown =>
      rw [isUnknown] at isKnown
      cases isKnown
  | unknown _ listed named => exact ⟨_, _, listed, named⟩

theorem perform_complete
    (settings : Settings) (files : Files.Tree)
    (configuration : Configuration) (platform facts : Value)
    (session : Session) :
    (complete settings files configuration platform facts).perform session =
      ((directoryOf configuration (rootOf settings files)
          settings.directory).map
            (inDirectory settings files configuration platform facts),
        session.add (.notice (.platformFacts facts))) := by
  rw [complete, perform_bind_of_ok (perform_tell _ _), perform_bind_pure]
  rfl

/--
Where a platform is chosen, the platforms can be listed and it is known whether it is
one of them, setting up an environment is a matter of its directory alone.
-/
theorem perform_start
    {settings : Settings} {detector : Detector} {session after : Session}
    {configuration : Configuration} {platform facts : Value}
    (loads :
      Configuration.load session.files settings.configuration =
        .ok configuration)
    (chosen :
      platformOf configuration settings.platform detector =
        .ok (platform, facts))
    (tells : Tells configuration platform facts session after) :
    (start settings detector).perform session =
      ((directoryOf configuration (rootOf settings session.files)
          settings.directory).map
            (inDirectory settings session.files configuration platform
              facts),
        after) := by
  rw [start_eq, perform_bind_of_ok (perform_files session), loads,
    perform_bind_of_ok (perform_ofExcept _ _), chosen,
    perform_bind_of_ok (perform_ofExcept _ _)]
  dsimp only
  cases tells with
  | known isKnown =>
      rw [isKnown, perform_bind_of_ok (perform_ofExcept _ _)]
      exact perform_complete _ _ _ _ _ _
  | unknown isUnknown listed named =>
      rw [isUnknown, perform_bind_of_ok (perform_ofExcept _ _),
        Bool.not_false, if_pos rfl, listed,
        perform_bind_of_ok (perform_ofExcept _ _), named,
        perform_bind_of_ok (perform_ofExcept _ _),
        perform_bind_of_ok (perform_tell _ _)]
      exact perform_complete _ _ _ _ _ _

theorem exists_tells
    {configuration : Configuration} {platform : Value} (facts : Value)
    (session : Session)
    (asked : ∃ isKnown, configuration.isKnown platform = .ok isKnown)
    (listed :
      ∃ values names,
        configuration.platformNames = .ok values ∧
          Value.toSpellings values = .ok names) :
    ∃ after, Tells configuration platform facts session after := by
  obtain ⟨isKnown, asked⟩ := asked
  obtain ⟨values, names, listed, named⟩ := listed
  cases isKnown with
  | true => exact ⟨_, .known asked⟩
  | false => exact ⟨_, .unknown asked listed named⟩

/-- How an environment is set up: what was read, chosen and told on the way. -/
structure SetsUp (settings : Settings) (detector : Detector)
    (session : Session) (environment : Environment) (after : Session) :
    Prop where
  loads :
    Configuration.load session.files settings.configuration =
      .ok environment.workspace.configuration
  chosen :
    platformOf environment.workspace.configuration settings.platform
        detector =
      .ok (environment.workspace.host, environment.facts)
  tells :
    Tells environment.workspace.configuration environment.workspace.host
      environment.facts session after
  isRoot : environment.root = rootOf settings session.files
  isDirectory :
    directoryOf environment.workspace.configuration environment.root
        settings.directory =
      .ok environment.workspace.directory
  isDryRun : environment.workspace.isDryRun = settings.isDryRun

/-- Where setting up succeeds, a platform was chosen and looked at. -/
theorem exists_tells_of_perform_start
    {settings : Settings} {detector : Detector} {session after : Session}
    {environment : Environment}
    (performs :
      (start settings detector).perform session = (.ok environment, after)) :
    ∃ configuration platform facts,
      Configuration.load session.files settings.configuration =
          .ok configuration ∧
        platformOf configuration settings.platform detector =
            .ok (platform, facts) ∧
        Tells configuration platform facts session after := by
  rw [start_eq, perform_bind_of_ok (perform_files session),
    perform_ofExcept_bind_iff] at performs
  obtain ⟨configuration, loads, performs⟩ := performs
  rw [perform_ofExcept_bind_iff] at performs
  obtain ⟨⟨platform, facts⟩, chosen, performs⟩ := performs
  dsimp only at performs
  rw [perform_ofExcept_bind_iff] at performs
  obtain ⟨isKnown, asked, performs⟩ := performs
  refine ⟨configuration, platform, facts, loads, chosen, ?_⟩
  cases isKnown with
  | true =>
      rw [Bool.not_true, if_neg Bool.false_ne_true, perform_complete]
        at performs
      obtain rfl := congrArg Prod.snd performs
      exact .known asked
  | false =>
      rw [Bool.not_false, if_pos rfl, perform_ofExcept_bind_iff] at performs
      obtain ⟨values, listed, performs⟩ := performs
      rw [perform_ofExcept_bind_iff] at performs
      obtain ⟨names, named, performs⟩ := performs
      rw [perform_bind_of_ok (perform_tell _ _), perform_complete]
        at performs
      obtain rfl := congrArg Prod.snd performs
      exact .unknown asked listed named

theorem perform_start_iff
    {settings : Settings} {detector : Detector} {session after : Session}
    {environment : Environment} :
    (start settings detector).perform session = (.ok environment, after) ↔
      SetsUp settings detector session environment after := by
  constructor
  · intro performs
    obtain ⟨configuration, platform, facts, loads, chosen, tells⟩ :=
      exists_tells_of_perform_start performs
    rw [perform_start loads chosen tells] at performs
    cases placed :
        directoryOf configuration (rootOf settings session.files)
          settings.directory with
    | error failure =>
        rw [placed] at performs
        cases performs
    | ok directory =>
        rw [placed] at performs
        obtain rfl := Except.ok.inj (congrArg Prod.fst performs)
        exact ⟨loads, chosen, tells, rfl, placed, rfl⟩
  · rintro ⟨loads, chosen, tells, isRoot, isDirectory, isDryRun⟩
    rw [perform_start loads chosen tells, ← isRoot, isDirectory]
    show (Except.ok (Environment.mk ⟨_, _, _, _⟩ _ _), _) = _
    rw [← isRoot, ← isDryRun]

/-- How the setting up ends does not depend on what is told. -/
theorem fst_perform_start
    (settings : Settings) (detector : Detector) (session : Session)
    {configuration : Configuration} {platform facts : Value}
    (loads :
      Configuration.load session.files settings.configuration =
        .ok configuration)
    (chosen :
      platformOf configuration settings.platform detector =
        .ok (platform, facts))
    (asked : ∃ isKnown, configuration.isKnown platform = .ok isKnown)
    (listed :
      ∃ values names,
        configuration.platformNames = .ok values ∧
          Value.toSpellings values = .ok names) :
    ((start settings detector).perform session).1 =
      (directoryOf configuration (rootOf settings session.files)
        settings.directory).map
          (inDirectory settings session.files configuration platform
            facts) := by
  obtain ⟨after, tells⟩ := exists_tells facts session asked listed
  rw [perform_start loads chosen tells]

theorem keeps_dry_shell :
    Keeps Session.surroundings (environment.dry.shell provisioner command) :=
  .bind (environment.workspace.keeps_dry_provision _ _ _) fun handle =>
    .bind (.tell _) fun _ => .pure handle

theorem foretells_shell :
    Foretells Eq (environment.dry.shell provisioner command)
      (environment.shell provisioner command) := by
  refine .bind (environment.workspace.foretells_provision _ _ _) ?_
  rintro handle _ rfl
  exact .bind (.tell _) fun _ _ _ => .pure rfl

theorem continues_shell :
    Continues (environment.shell provisioner command) :=
  .bind (environment.workspace.continues_provision _ _ _) fun handle =>
    .bind (Keeps.tell _).processes.continues fun _ =>
      (Keeps.pure handle).continues

end Environment

end NativeDeps
