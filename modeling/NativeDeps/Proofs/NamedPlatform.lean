import Mathlib.Data.Set.Finite.List
import NativeDeps.Proofs.Detection
import NativeDeps.Proofs.Text.Blank
import NativeDeps.Proofs.Text.Halves

/-!
# Platforms that the user names

The user may give any name for a platform.  What is done for an identifier of the table
can be done for every other name just when the whole table can be read, because a name
that is no identifier is compared with all aliases.
-/

namespace NativeDeps

namespace PlatformCondition

open Text Spelling

/-- A name of so many letters. -/
def letters (count : Nat) : Spelling :=
  List.replicate count (.char 'a')

theorem letters_injective : Function.Injective letters := by
  intro count other same
  have lengths := congrArg List.length same
  rwa [letters, letters, List.length_replicate,
    List.length_replicate] at lengths

theorem hostKey_letters (count : Nat) : hostKey (letters count) = letters count := by
  have isLetter : ∀ letter ∈ letters count, letter = .char 'a' :=
    fun _ member => List.eq_of_mem_replicate member
  have stripped : (letters count).strip = letters count := by
    rw [strip_eq_trim, trim_eq_self_iff]
    constructor
    · intro first isFirst
      rw [isLetter first (List.mem_of_mem_head? isFirst)]
      rfl
    · intro last isLast
      rw [isLetter last (List.mem_of_mem_getLast? isLast)]
      rfl
  have small : ∀ letter ∈ letters count, IsSmallLetter letter := by
    intro letter member
    rw [isLetter letter member]
    show IsSmall 'a'
    decide +kernel
  rw [hostKey, stripped, Spelling.lower,
    lowerRuns_of_small (List.forall_mem_nil _) small]
  rfl

/-- Finitely many values leave a name in the form in which names are compared. -/
theorem exists_hostKey_notMem (used : List Value) :
    ∃ name, hostKey name = name ∧ .ofSpelling name ∉ used := by
  by_contra allUsed
  have isUsed :
      ∀ count, Value.ofSpelling (letters count) ∈ {value | value ∈ used} := by
    intro count
    by_contra isFree
    exact allUsed ⟨letters count, hostKey_letters count, isFree⟩
  have injective :
      Function.Injective fun count => Value.ofSpelling (letters count) := by
    intro count other same
    exact letters_injective (Value.ofSpelling_injective same)
  exact Set.infinite_of_injective_forall_mem injective isUsed used.finite_toSet

end PlatformCondition

theorem Configuration.exists_isFresh
    (entries : List (Value × Value)) (avoided : Spelling) :
    ∃ name,
      PlatformCondition.hostKey name = name ∧
        IsFresh name entries ∧ name ≠ avoided := by
  obtain ⟨name, isKey, isFree⟩ :=
    PlatformCondition.exists_hostKey_notMem
      (.ofSpelling avoided :: entries.flatMap spellings)
  rw [List.mem_cons, not_or] at isFree
  obtain ⟨differs, isFree⟩ := isFree
  refine ⟨name, isKey, ?_, fun same => differs (congrArg Value.ofSpelling same)⟩
  intro entry member spelled
  exact isFree (List.mem_flatMap.2 ⟨entry, member, spelled⟩)

/-- What is shown about a workspace for a host with a name. -/
theorem Workspace.fst_perform_summary
    {workspace : Workspace} {name : Spelling}
    (isHost : workspace.host = .ofSpelling name) (session : Session) :
    (workspace.summary.perform session).1 =
      .ok {
        name := workspace.descriptor.name
        platform := .ofSpelling name
        condition := workspace.descriptor.condition.text
        holds := workspace.descriptor.condition.holds (some name)
        dependencies := (workspace.descriptor.resolve (some name)).identifiers
        directory := workspace.directory } := by
  have resolves :
      workspace.descriptor.resolveOn workspace.host =
        .ok (workspace.descriptor.resolve (some name)) := by
    rw [isHost]
    exact workspace.descriptor.resolveOn_ofSpellingOrNull (some name)
  have asksCondition :
      workspace.descriptor.condition.holdsOn workspace.host =
        .ok (workspace.descriptor.condition.holds (some name)) := by
    rw [isHost]
    exact workspace.descriptor.condition.holdsOn_ofSpellingOrNull (some name)
  obtain ⟨after, performs, _⟩ := perform_resolve resolves session
  rw [summary, Work.perform_bind_of_ok performs]
  dsimp only
  rw [asksCondition, isHost]
  rfl

namespace Environment

open Work

/-- An environment can be set up for a name, and be asked for its set and its summary. -/
def Serves (settings : Settings) (detector : Detector) (session : Session)
    (name : Spelling) : Prop :=
  ∃ environment after,
    (start (asking settings name) detector).perform session =
        (.ok environment, after) ∧
      ∀ later : Session,
        (∃ set, (environment.resolve.perform later).1 = .ok set) ∧
          ∃ summary,
            (environment.workspace.summary.perform later).1 = .ok summary

/--
Two environments that are alike but for their platforms: what is told of each is a
warning, where its platform is not known, and its platform.
-/
structure AreAlike (session : Session) (environment : Environment)
    (after : Session) (other : Environment) (otherAfter : Session) :
    Prop where
  workspace_eq :
    other.workspace =
      { environment.workspace with host := other.workspace.host }
  root_eq : other.root = environment.root
  facts_eq :
    environment.facts =
      .mapping [(.text "platform", environment.workspace.host)]
  otherFacts_eq :
    other.facts = .mapping [(.text "platform", other.workspace.host)]
  tells :
    Tells environment.workspace.configuration environment.workspace.host
      environment.facts session after
  otherTells :
    Tells environment.workspace.configuration other.workspace.host
      other.facts session otherAfter

/-- What is chosen for a name is what the name is normalized to. -/
theorem normalize_of_platformOf
    {configuration : Configuration} {name : Spelling} {detector : Detector}
    {platform facts : Value} (notAutomatic : name ≠ automatic)
    (chosen :
      platformOf configuration (.ofSpelling name) detector =
        .ok (platform, facts)) :
    configuration.normalize (.ofSpelling name) = .ok platform ∧
      facts = .mapping [(.text "platform", platform)] := by
  cases normalizes : configuration.normalize (.ofSpelling name) with
  | error failure =>
      have differs :
          (Value.ofSpelling name).sameKey (.text automatic) = false := by
        rw [← Value.ofSpelling_ofText, Value.sameKey_ofSpelling]
        exact beq_eq_false_iff_ne.2 notAutomatic
      rw [platformOf, differs, normalizes] at chosen
      cases chosen
  | ok found =>
      rw [platformOf_named notAutomatic normalizes] at chosen
      cases chosen
      exact ⟨rfl, rfl⟩

section

variable {settings : Settings} {detector : Detector}
  {session after otherAfter : Session} {name otherName : Spelling}
  {environment other : Environment}

theorem areAlike_of_setsUp
    (notAutomatic : name ≠ automatic) (otherNotAutomatic : otherName ≠ automatic)
    (setsUp :
      SetsUp (asking settings name) detector session environment after)
    (otherSetsUp :
      SetsUp (asking settings otherName) detector session other otherAfter) :
    AreAlike session environment after other otherAfter := by
  have sameConfiguration :
      other.workspace.configuration = environment.workspace.configuration :=
    Except.ok.inj (otherSetsUp.loads.symm.trans setsUp.loads)
  have sameRoot : other.root = environment.root :=
    otherSetsUp.isRoot.trans setsUp.isRoot.symm
  have sameDirectory :
      other.workspace.directory = environment.workspace.directory := by
    have placed := otherSetsUp.isDirectory
    rw [sameConfiguration, sameRoot] at placed
    exact Except.ok.inj (placed.symm.trans setsUp.isDirectory)
  have sameDryness :
      other.workspace.isDryRun = environment.workspace.isDryRun :=
    otherSetsUp.isDryRun.trans setsUp.isDryRun.symm
  have otherTells := otherSetsUp.tells
  rw [sameConfiguration] at otherTells
  refine
    { workspace_eq := ?_
      root_eq := sameRoot
      facts_eq := (normalize_of_platformOf notAutomatic setsUp.chosen).2
      otherFacts_eq :=
        (normalize_of_platformOf otherNotAutomatic otherSetsUp.chosen).2
      tells := setsUp.tells
      otherTells := otherTells }
  show other.workspace = ⟨_, _, _, _⟩
  rw [← sameConfiguration, ← sameDirectory, ← sameDryness]

/-- Where every name serves, one that stands nowhere does, and so the table is read. -/
theorem exists_readable_of_serves
    (setsUp :
      SetsUp (asking settings name) detector session environment after)
    (serves :
      ∀ other : Spelling,
        other ≠ automatic → Serves settings detector session other) :
    ∃ table,
      environment.workspace.configuration.platformTable = .ok table ∧
        table.IsReadable := by
  obtain ⟨isKnown, asked⟩ := setsUp.tells.exists_isKnown
  obtain ⟨platforms, entries, known, entered⟩ :=
    Configuration.exists_entries_of_isKnown asked
  obtain ⟨fresh, isKey, isFresh, notAutomatic⟩ :=
    Configuration.exists_isFresh entries automatic
  obtain ⟨other, otherAfter, starts, _⟩ := serves fresh notAutomatic
  have otherSetsUp := perform_start_iff.1 starts
  have sameConfiguration :
      other.workspace.configuration = environment.workspace.configuration :=
    Except.ok.inj (otherSetsUp.loads.symm.trans setsUp.loads)
  have normalizes :=
    (normalize_of_platformOf notAutomatic otherSetsUp.chosen).1
  have tells := otherSetsUp.tells
  rw [sameConfiguration] at normalizes tells
  exact
    Configuration.isReadable_of_isFresh known entered isKey isFresh normalizes
      tells.exists_names

/-- Where a table is read, every name serves. -/
theorem serves_of_readable
    {table : PlatformTable}
    (setsUp :
      SetsUp (asking settings name) detector session environment after)
    (tabled :
      environment.workspace.configuration.platformTable = .ok table)
    (readable : table.IsReadable) (notAutomatic : otherName ≠ automatic) :
    Serves settings detector session otherName := by
  have meaningText : (table.meaning otherName).IsText :=
    PlatformTable.isText_identify readable (Value.isText_ofSpelling _)
  obtain ⟨otherAfter, tells⟩ :=
    exists_tells (.mapping [(.text "platform", table.meaning otherName)])
      session (Configuration.exists_isKnown tabled readable meaningText)
      (Configuration.exists_platformNames tabled readable)
  have starts :
      (start (asking settings otherName) detector).perform session =
        (.ok
          { environment with
            workspace :=
              { environment.workspace with
                host := table.meaning otherName }
            facts :=
              .mapping [(.text "platform", table.meaning otherName)] },
          otherAfter) :=
    perform_start_iff.2
      { loads := setsUp.loads
        chosen :=
          platformOf_named notAutomatic
            (Configuration.normalize_ofSpelling tabled readable otherName)
            detector
        tells := tells
        isRoot := setsUp.isRoot
        isDirectory := setsUp.isDirectory
        isDryRun := setsUp.isDryRun }
  obtain ⟨spelling, isSpelling⟩ := meaningText.exists_spelling
  have resolves :
      environment.workspace.descriptor.resolveOn (table.meaning otherName) =
        .ok (environment.workspace.descriptor.resolve (some spelling)) := by
    rw [isSpelling]
    exact
      environment.workspace.descriptor.resolveOn_ofSpellingOrNull
        (some spelling)
  refine ⟨_, otherAfter, starts, fun later => ⟨?resolves, ?shows⟩⟩
  case resolves =>
    exact ⟨_, (Workspace.fst_perform_resolve _ later).trans resolves⟩
  case shows => exact ⟨_, Workspace.fst_perform_summary isSpelling later⟩

/--
If an environment can be set up for one name, then every name serves exactly where the
whole table can be read.  Environments that can be set up for two names are alike but for
their platforms.
-/
theorem every_name_serves_iff
    (notAutomatic : name ≠ automatic)
    (starts :
      (start (asking settings name) detector).perform session =
        (.ok environment, after)) :
    ((∀ other : Spelling,
        other ≠ automatic → Serves settings detector session other) ↔
      ∃ table,
        environment.workspace.configuration.platformTable = .ok table ∧
          table.IsReadable) ∧
    ∀ (otherName : Spelling) other otherAfter,
      otherName ≠ automatic →
        (start (asking settings otherName) detector).perform session =
            (.ok other, otherAfter) →
          AreAlike session environment after other otherAfter := by
  have setsUp := perform_start_iff.1 starts
  refine ⟨⟨exists_readable_of_serves setsUp, ?_⟩, ?_⟩
  · rintro ⟨table, tabled, readable⟩ otherName otherNotAutomatic
    exact serves_of_readable setsUp tabled readable otherNotAutomatic
  · intro otherName other otherAfter otherNotAutomatic otherStarts
    exact
      areAlike_of_setsUp notAutomatic otherNotAutomatic setsUp
        (perform_start_iff.1 otherStarts)

end

/-- With the shipped configuration a name serves that stands nowhere in the table. -/
theorem haiku_serves_with_shipped :
    Serves {} ⟨⟨"Linux", "x86_64", "3.11"⟩, none⟩ (.inEmptyHome []) "haiku" := by
  have serves :=
    @every_name_serves_iff {} ⟨⟨"Linux", "x86_64", "3.11"⟩, none⟩
      (.inEmptyHome []) _ "linux" _ (by decide) rfl
  have typed : shippedTable.IsTyped := by decide
  exact
    serves.1.2 ⟨shippedTable, rfl, typed.isReadable⟩ "haiku" (by decide)

end Environment

namespace Session

/-- A directory with a configuration where the aliases of one platform are null. -/
def withNullAliases : Session where
  files :=
    { entries :=
        [(["home"], .directory), (["home", "cfg"], .directory),
          (["home", "cfg", "environment.yaml"],
            .file
              (.text
                "environment:\n  name: tool\n  base_dependencies: [zlib]\n")),
          (["home", "cfg", "platforms.yaml"],
            .file (.text "platforms:\n  linux:\n  darwin:\n    aliases:\n"))]
      directory := ["home"] }

end Session

namespace Environment

/-- How setting up an environment for a platform fails, if it does. -/
def failureOn (system : String) (platform : Spelling) (session : Session) :
    Option Failure :=
  let settings : Settings := { configuration := some (.ofString "cfg") }
  let started :=
    (start (asking settings platform) { host := ⟨system, "", ""⟩ }).perform
      session
  match started.1 with
  | .ok _ => none
  | .error failure => some failure

/-- An identifier serves with null aliases in the table, and another name does not. -/
theorem null_aliases_stop_haiku :
    identifiersOn "Linux" "linux" .withNullAliases =
        some (["zlib"] : List Spelling) ∧
      failureOn "Linux" "haiku" .withNullAliases = some .mistyped := by
  decide +kernel

end Environment

end NativeDeps
