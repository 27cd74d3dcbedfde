import NativeDeps.Proofs.Environment
import NativeDeps.Proofs.PlatformTable
import NativeDeps.Proofs.Request
import NativeDeps.Proofs.Resolution

/-!
# Platforms that are detected and platforms that are named

The platform that is detected is taken as it is, while a platform that is named is
looked up in the table of platforms first.  So the two ways agree on a host exactly when
the detected name stands for itself in the table.
-/

namespace NativeDeps

/-- Sets that are resolved on hosts with texts for names tell the hosts apart. -/
theorem Descriptor.resolveOn_eq_iff
    (descriptor : Descriptor) {host : Value} (isText : host.IsText)
    (name : Spelling) :
    descriptor.resolveOn (.ofSpelling name) = descriptor.resolveOn host ↔
      .ofSpelling name = host := by
  obtain ⟨other, rfl⟩ := isText.exists_spelling
  have resolves := descriptor.resolveOn_ofSpellingOrNull (some name)
  have otherResolves := descriptor.resolveOn_ofSpellingOrNull (some other)
  change descriptor.resolveOn (.ofSpelling name) = _ at resolves
  change descriptor.resolveOn (.ofSpelling other) = _ at otherResolves
  rw [resolves, otherResolves]
  constructor
  · intro same
    have sameHost := congrArg DependencySet.host (Except.ok.inj same)
    rw [Option.some.inj sameHost]
  · intro same
    rw [Value.ofSpelling_injective same]

namespace Environment

open Work

theorem platformOf_automatic
    (configuration : Configuration) (detector : Detector) :
    platformOf configuration (.text automatic) detector =
      .ok (.text detector.platform.1, detector.host.facts) :=
  rfl

theorem platformOf_named
    {configuration : Configuration} {name : Spelling} {platform : Value}
    (notAutomatic : name ≠ automatic)
    (normalizes : configuration.normalize (.ofSpelling name) = .ok platform)
    (detector : Detector) :
    platformOf configuration (.ofSpelling name) detector =
      .ok (platform, .mapping [(.text "platform", platform)]) := by
  have differs :
      (Value.ofSpelling name).sameKey (.text automatic) = false := by
    rw [← Value.ofSpelling_ofText, Value.sameKey_ofSpelling]
    exact beq_eq_false_iff_ne.2 notAutomatic
  rw [platformOf, differs, normalizes]
  rfl

/-- The settings of a user who asks for a platform. -/
def asking (settings : Settings) (platform : Spelling) : Settings :=
  { settings with platform := .ofSpelling platform }

/--
How two environments compare, one for a platform that is detected and one for the same
name given by the user: what the name stands for in the table decides.
-/
structure Compare (table : PlatformTable) (name : String)
    (session : Session) (detected named : Environment) : Prop where
  detectedHost : detected.workspace.host = .text name
  namedHost : named.workspace.host = table.meaning name
  hosts_iff :
    detected.workspace.host = named.workspace.host ↔
      table.meaning name = .text name
  sets_iff :
    (detected.resolve.perform session).1 =
        (named.resolve.perform session).1 ↔
      table.meaning name = .text name

theorem compare_inDirectory
    (settings : Settings) (configuration : Configuration)
    {table : PlatformTable} (typed : table.IsTyped) (name : String)
    (session : Session) (facts otherFacts : Value) (directory : Files.Path) :
    Compare table name session
      (inDirectory settings session.files configuration (.text name) facts
        directory)
      (inDirectory settings session.files configuration (table.meaning name)
        otherFacts directory) where
  detectedHost := rfl
  namedHost := rfl
  hosts_iff := eq_comm
  sets_iff := by
    have meaningText : (table.meaning name).IsText :=
      PlatformTable.isText_identify typed.isReadable
        (Value.isText_ofSpelling _)
    have sameSet :=
      configuration.descriptor.resolveOn_eq_iff meaningText name
    rw [Value.ofSpelling_ofText] at sameSet
    rw [resolve, resolve, Workspace.fst_perform_resolve,
      Workspace.fst_perform_resolve]
    exact sameSet.trans eq_comm

section

variable (settings : Settings) (detector : Detector) (session : Session)
  {configuration : Configuration} {table : PlatformTable} {name : String}

/-- A detected platform is taken as it is. -/
theorem fst_perform_start_automatic
    (loads :
      Configuration.load session.files settings.configuration =
        .ok configuration)
    (tabled : configuration.platformTable = .ok table)
    (typed : table.IsTyped) (detects : detector.platform.1 = name) :
    ((start (asking settings automatic) detector).perform session).1 =
      (directoryOf configuration (rootOf settings session.files)
        settings.directory).map
          (inDirectory settings session.files configuration (.text name)
            detector.host.facts) := by
  have chosen :
      platformOf configuration (asking settings automatic).platform
          detector =
        .ok (.text name, detector.host.facts) := by
    rw [asking, Value.ofSpelling_ofText, ← detects]
    exact platformOf_automatic configuration detector
  have nameText : (Value.text name).IsText := rfl
  exact
    fst_perform_start (asking settings automatic) detector session loads
      chosen (Configuration.exists_isKnown tabled typed.isReadable nameText)
      (Configuration.exists_platformNames tabled typed.isReadable)

/-- A named platform is what the name stands for in the table. -/
theorem fst_perform_start_named
    {name : Spelling}
    (loads :
      Configuration.load session.files settings.configuration =
        .ok configuration)
    (tabled : configuration.platformTable = .ok table)
    (typed : table.IsTyped) (notAutomatic : name ≠ automatic) :
    ((start (asking settings name) detector).perform session).1 =
      (directoryOf configuration (rootOf settings session.files)
        settings.directory).map
          (inDirectory settings session.files configuration
            (table.meaning name)
            (.mapping [(.text "platform", table.meaning name)])) := by
  have normalizes :=
    Configuration.normalize_ofSpelling tabled typed.isReadable name
  have meaningText : (table.meaning name).IsText :=
    PlatformTable.isText_identify typed.isReadable
      (Value.isText_ofSpelling _)
  exact
    fst_perform_start (asking settings name) detector session loads
      (platformOf_named notAutomatic normalizes detector)
      (Configuration.exists_isKnown tabled typed.isReadable meaningText)
      (Configuration.exists_platformNames tabled typed.isReadable)

/--
With a table of texts, the platform that is detected and the same name given by the user
set up environments alike.  The two are for the same platform, and resolve the same set,
exactly if the detected name stands for itself in the table.  A name in the form in
which names are compared does so if it is an identifier, or else if it is no alias.
-/
theorem automatic_agrees_iff
    (loads :
      Configuration.load session.files settings.configuration =
        .ok configuration)
    (tabled : configuration.platformTable = .ok table)
    (typed : table.IsTyped) (detects : detector.platform.1 = name)
    (notAutomatic : name ≠ automatic) :
    ((∃ environment,
        ((start (asking settings automatic) detector).perform session).1 =
          .ok environment) ↔
      ∃ environment,
        ((start (asking settings name) detector).perform session).1 =
          .ok environment) ∧
    (∀ detected named,
      ((start (asking settings automatic) detector).perform session).1 =
          .ok detected →
        ((start (asking settings name) detector).perform session).1 =
            .ok named →
          Compare table name session detected named) ∧
    (PlatformCondition.hostKey name = name →
      (table.meaning name = .text name ↔
        table.lists (.text name) = true ∨
          table.hasAlias (.text name) = false)) := by
  have detectedStart :=
    fst_perform_start_automatic settings detector session loads tabled typed
      detects
  have namedStart :=
    fst_perform_start_named settings detector session loads tabled typed
      fun same => notAutomatic (Spelling.ofText_injective same)
  rw [detectedStart, namedStart]
  refine ⟨?_, ?_, ?_⟩
  · cases directoryOf configuration (rootOf settings session.files)
        settings.directory with
    | error failure =>
        constructor
        · rintro ⟨environment, same⟩
          cases same
        · rintro ⟨environment, same⟩
          cases same
    | ok directory => exact iff_of_true ⟨_, rfl⟩ ⟨_, rfl⟩
  · intro detected named
    cases directoryOf configuration (rootOf settings session.files)
        settings.directory with
    | error failure => exact nofun
    | ok directory =>
        rintro ⟨⟩ ⟨⟩
        exact
          compare_inDirectory settings configuration typed name session _ _
            directory
  · intro isKey
    rw [PlatformTable.meaning, isKey, Value.ofSpelling_ofText]
    exact PlatformTable.identify_eq_self_iff typed _

end

/-- The table of the shipped configuration. -/
def shippedTable : PlatformTable :=
  [(.text "linux", [.text "linux2", .text "gnu/linux"]),
    (.text "darwin",
      [.text "macos", .text "osx", .text "macosx", .text "mac"]),
    (.text "windows",
      [.text "win32", .text "win64", .text "win", .text "cygwin",
        .text "msys"]),
    (.text "freebsd", [])]

/-- With the shipped configuration a Linux host is the same, detected or named. -/
theorem automatic_agrees_on_linux :
    ∃ detected named,
      Compare shippedTable "linux" (.inEmptyHome []) detected named ∧
        shippedTable.meaning "linux" = .text "linux" := by
  have agrees :=
    @automatic_agrees_iff {} ⟨⟨"Linux", "x86_64", "3.11"⟩, none⟩
      (.inEmptyHome []) _ shippedTable "linux" rfl rfl (by decide) rfl
      (by decide)
  exact
    ⟨_, _, agrees.2.1 _ _ rfl rfl, (agrees.2.2 rfl).2 (.inl rfl)⟩

end Environment

namespace Session

/-- A directory with a configuration for Solaris, where `sunos` is an alias. -/
def withSolaris : Session where
  files :=
    { entries :=
        [(["home"], .directory), (["home", "cfg"], .directory),
          (["home", "cfg", "environment.yaml"],
            .file
              (.text
                ("environment:\n  name: tool\n" ++
                  "  base_dependencies: [zlib]\n" ++
                  "  platform_condition:\n    platforms: [solaris]\n" ++
                  "  conditional_dependencies: [socket]\n"))),
          (["home", "cfg", "platforms.yaml"],
            .file (.text "platforms:\n  solaris:\n    aliases: [sunos]\n"))]
      directory := ["home"] }

end Session

namespace Environment

/-- The identifiers that are resolved on a host, for a platform that is asked for. -/
def identifiersOn (system : String) (platform : Spelling) (session : Session) :
    Option (List Spelling) :=
  let settings : Settings := { configuration := some (.ofString "cfg") }
  let resolving : Work DependencySet := do
    let environment ←
      start (asking settings platform) { host := ⟨system, "", ""⟩ }
    environment.resolve
  (resolving.perform session).1.toOption.map DependencySet.identifiers

/-- What is detected on Solaris, and the same name given by the user, do not agree. -/
theorem automatic_disagrees_on_solaris :
    (Host.platform ⟨"SunOS", "", ""⟩ = "sunos") ∧
      identifiersOn "SunOS" automatic .withSolaris =
        some (["zlib"] : List Spelling) ∧
      identifiersOn "SunOS" "sunos" .withSolaris =
        some (["zlib", "socket"] : List Spelling) := by
  decide +kernel

end Environment

end NativeDeps
