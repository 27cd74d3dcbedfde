import NativeDeps.Proofs.LetterCase
import NativeDeps.Proofs.NamedPlatform

/-!
# Platforms that the condition lists

A name that the condition of the descriptor lists is looked up in the table of platforms
like any other.  So it selects the conditional dependencies exactly if what it stands for
is listed as well, in any letter case.
-/

namespace NativeDeps

namespace Environment

/--
An environment counts its condition as holding, and resolves the base dependencies,
followed by the conditional ones that are new.
-/
structure Selects (environment : Environment) : Prop where
  holds :
    ∀ session : Session,
      ∃ summary,
        (environment.workspace.summary.perform session).1 = .ok summary ∧
          summary.holds = true
  resolves :
    ∀ session : Session,
      ∃ set,
        (environment.resolve.perform session).1 = .ok set ∧
          set.dependencies =
            environment.workspace.descriptor.base.map
                (fun identifier => ⟨identifier, none⟩) ++
              environment.workspace.descriptor.newConditional.map
                fun identifier =>
                  ⟨identifier, environment.workspace.descriptor.scope⟩

/-- Whether the conditional dependencies are selected is a matter of the host alone. -/
theorem selects_iff
    {environment : Environment} (isText : environment.workspace.host.IsText) :
    environment.Selects ↔
      ∃ host,
        environment.workspace.host = .ofSpelling host ∧
          environment.workspace.descriptor.condition.holds (some host) =
            true := by
  obtain ⟨host, isHost⟩ := isText.exists_spelling
  constructor
  · rintro ⟨holds, _⟩
    obtain ⟨summary, shown, isHeld⟩ := holds (.inEmptyHome [])
    rw [Workspace.fst_perform_summary isHost] at shown
    obtain rfl := Except.ok.inj shown
    exact ⟨host, isHost, isHeld⟩
  · rintro ⟨host, isHost, isHeld⟩
    constructor
    · intro session
      exact ⟨_, Workspace.fst_perform_summary isHost session, isHeld⟩
    · intro session
      refine
        ⟨environment.workspace.descriptor.resolve (some host), ?_, ?_⟩
      · rw [resolve, Workspace.fst_perform_resolve, isHost]
        exact
          environment.workspace.descriptor.resolveOn_ofSpellingOrNull
            (some host)
      · rw [Descriptor.resolve, Descriptor.dependencies_eq, isHeld,
          if_pos rfl]

/-- A name stands for a platform that a condition lists. -/
def MeansListed (table : PlatformTable) (condition : PlatformCondition)
    (name : Spelling) : Prop :=
  ∃ identifier,
    table.meaning name = .ofSpelling identifier ∧
      identifier ≠ "" ∧
      ∃ platform ∈ condition.platforms,
        PlatformCondition.hostKey identifier = platform.lower

theorem selects_iff_meansListed
    {environment : Environment} {table : PlatformTable} {name : Spelling}
    (typed : table.IsTyped)
    (isHost : environment.workspace.host = table.meaning name) :
    environment.Selects ↔
      MeansListed table environment.workspace.descriptor.condition name := by
  have isText : environment.workspace.host.IsText := by
    rw [isHost]
    exact
      PlatformTable.isText_identify typed.isReadable
        (Value.isText_ofSpelling _)
  rw [selects_iff isText, isHost]
  simp only [PlatformCondition.holds_iff, MeansListed]

/-- A listed name without blanks around it means itself, unless it is only an alias. -/
theorem meansListed_of_mem
    {table : PlatformTable} {condition : PlatformCondition} {name : Spelling}
    (typed : table.IsTyped) (listed : name ∈ condition.platforms)
    (notEmpty : name ≠ "") (trimmed : name.strip = name)
    (itself :
      table.lists (.ofSpelling name.lower) = true ∨
        table.hasAlias (.ofSpelling name.lower) = false) :
    MeansListed table condition name := by
  have isKey : PlatformCondition.hostKey name = name.lower := by
    rw [PlatformCondition.hostKey, trimmed]
  have meansItself : table.meaning name = .ofSpelling name.lower := by
    rw [PlatformTable.meaning, isKey]
    exact (PlatformTable.identify_eq_self_iff typed _).2 itself
  refine
    ⟨name.lower, meansItself, Spelling.lower_eq_nil_iff.not.2 notEmpty, name,
      listed, ?_⟩
  rw [PlatformCondition.hostKey, Spelling.strip_lower trimmed,
    Spelling.lower_lower]

section

variable (settings : Settings) (detector : Detector) (session : Session)
  {configuration : Configuration} {table : PlatformTable} {name : Spelling}

/--
With a table of texts an environment can be set up for a name wherever its directory is
known, and it selects the conditional dependencies exactly if the name stands for a
platform that the condition lists.  A listed name without blanks around it does so if it
is an identifier in lower case, or else if it is no alias.
-/
theorem named_platform_selects_iff
    (loads :
      Configuration.load session.files settings.configuration =
        .ok configuration)
    (tabled : configuration.platformTable = .ok table)
    (typed : table.IsTyped) (notAutomatic : name ≠ automatic) :
    ((∃ environment,
        ((start (asking settings name) detector).perform session).1 =
          .ok environment) ↔
      ∃ directory,
        directoryOf configuration (rootOf settings session.files)
            settings.directory =
          .ok directory) ∧
    ∀ environment,
      ((start (asking settings name) detector).perform session).1 =
          .ok environment →
        environment.workspace.configuration = configuration ∧
        (environment.Selects ↔
          MeansListed table configuration.descriptor.condition name) ∧
        (name ∈ configuration.descriptor.condition.platforms →
          name ≠ "" →
          name.strip = name →
          table.lists (.ofSpelling name.lower) = true ∨
              table.hasAlias (.ofSpelling name.lower) = false →
            environment.Selects) := by
  rw [fst_perform_start_named settings detector session loads tabled typed
    notAutomatic]
  cases directoryOf configuration (rootOf settings session.files)
      settings.directory with
  | error failure => exact ⟨iff_of_false nofun nofun, nofun⟩
  | ok directory =>
      refine ⟨iff_of_true ⟨_, rfl⟩ ⟨_, rfl⟩, ?_⟩
      rintro environment ⟨⟩
      refine ⟨rfl, selects_iff_meansListed typed rfl, ?_⟩
      intro listed notEmpty trimmed itself
      exact
        (selects_iff_meansListed typed rfl).2
          (meansListed_of_mem typed listed notEmpty trimmed itself)

end

/-- With the shipped configuration the platform that the condition lists is selected. -/
theorem darwin_selects_with_shipped :
    ∃ environment,
      ((start (asking {} "darwin") ⟨⟨"Linux", "x86_64", "3.11"⟩, none⟩).perform
            (.inEmptyHome [])).1 =
          .ok environment ∧
        environment.Selects := by
  have selects :=
    @named_platform_selects_iff {} ⟨⟨"Linux", "x86_64", "3.11"⟩, none⟩
      (.inEmptyHome []) _ shippedTable "darwin" rfl rfl (by decide)
      (by decide)
  obtain ⟨environment, starts⟩ := selects.1.2 ⟨_, rfl⟩
  have listedSelects := (selects.2 environment starts).2.2
  refine ⟨environment, starts, listedSelects ?_ ?_ ?_ (.inl ?_)⟩
  · decide
  · decide
  · decide +kernel
  · decide +kernel

end Environment

namespace Session

/-- A directory with a configuration whose condition lists an alias. -/
def withListedAlias : Session where
  files :=
    { entries :=
        [(["home"], .directory), (["home", "cfg"], .directory),
          (["home", "cfg", "environment.yaml"],
            .file
              (.text
                ("environment:\n  name: tool\n" ++
                  "  base_dependencies: [zlib]\n" ++
                  "  platform_condition:\n    platforms: [macos]\n" ++
                  "  conditional_dependencies: [Security]\n"))),
          (["home", "cfg", "platforms.yaml"],
            .file (.text "platforms:\n  darwin:\n    aliases: [macos]\n"))]
      directory := ["home"] }

end Session

namespace Environment

/-- What a platform that is asked for comes to in a directory with a configuration. -/
structure Selection where
  hasTypedTable : Bool
  listed : List Spelling
  holds : Bool
  dependencies : List Spelling
deriving Repr, DecidableEq

def selectionOn (platform : Spelling) (session : Session) :
    Option Selection :=
  let settings : Settings := { configuration := some (.ofString "cfg") }
  let selecting : Work Selection := do
    let environment ←
      start (asking settings platform) { host := ⟨"Linux", "", ""⟩ }
    let summary ← environment.workspace.summary
    let configuration := environment.workspace.configuration
    let table ← Work.ofExcept configuration.platformTable
    return {
      hasTypedTable := decide table.IsTyped
      listed := configuration.descriptor.condition.platforms
      holds := summary.holds
      dependencies := summary.dependencies }
  (selecting.perform session).1.toOption

/-- A condition that lists an alias does not hold for it. -/
theorem listed_alias_selects_nothing :
    selectionOn "macos" .withListedAlias =
      some
        { hasTypedTable := true
          listed := ["macos"]
          holds := false
          dependencies := ["zlib"] } := by
  decide +kernel

end Environment

end NativeDeps
