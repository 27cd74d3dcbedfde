import NativeDeps.Proofs.Detection
import NativeDeps.Proofs.Text.Halves

/-!
# Names that are looked up again

What a name stands for is looked up again where it is asked whether it is known.  An
identifier and a name that is no alias stand for themselves, however often they are looked
up.  An alias stands for an identifier as it is spelled in the table, and this is found
again only if it is spelled in the form in which names are looked up, or if it is the first
platform that has this form of it among its aliases.
-/

namespace NativeDeps

theorem PlatformCondition.hostKey_hostKey (name : Spelling) :
    hostKey (hostKey name) = hostKey name := by
  rw [hostKey, hostKey, Spelling.strip_lower (Spelling.strip_strip name),
    Spelling.lower_lower]

namespace Value

/-- The form in which a name is looked up: in lower case, and without blanks around it. -/
def nameKey (value : Value) : Value :=
  match value.spelling? with
  | some name => .ofSpelling (PlatformCondition.hostKey name)
  | none => value

@[simp]
theorem nameKey_ofSpelling (name : Spelling) :
    (ofSpelling name).nameKey =
      ofSpelling (PlatformCondition.hostKey name) := by
  rw [nameKey, spelling?_ofSpelling]

theorem nameKey_text {name key : String}
    (isKey : PlatformCondition.hostKey name = (key : Spelling)) :
    (text name).nameKey = text key := by
  rw [← ofSpelling_ofText, nameKey_ofSpelling, isKey, ofSpelling_ofText]

@[simp]
theorem nameKey_nameKey (value : Value) :
    value.nameKey.nameKey = value.nameKey := by
  rw [nameKey.eq_def value]
  cases isName : value.spelling? with
  | some name =>
      exact
        (nameKey_ofSpelling _).trans
          (congrArg ofSpelling (PlatformCondition.hostKey_hostKey name))
  | none =>
      show value.nameKey = value
      rw [nameKey, isName]

theorem IsText.nameKey {value : Value} (isText : value.IsText) :
    value.nameKey.IsText := by
  obtain ⟨name, rfl⟩ := isText.exists_spelling
  rw [nameKey_ofSpelling]
  exact isText_ofSpelling _

/-- A name is brought into this form in two steps. -/
theorem IsText.exists_stripped
    {value : Value} (isText : value.IsText) :
    ∃ stripped,
      value.stripped = .ok stripped ∧ stripped.lowered = .ok value.nameKey := by
  obtain ⟨name, rfl⟩ := isText.exists_spelling
  rw [nameKey_ofSpelling]
  exact ⟨_, stripped_ofSpelling name, lowered_ofSpelling _⟩

end Value

namespace PlatformTable

variable {table : PlatformTable} {key name platform : Value}

/-- What a name stands for, whatever its letter case and the blanks around it. -/
def standsFor (table : PlatformTable) (name : Value) : Value :=
  table.identify name.nameKey

/--
An identifier is found again: it is in the form in which names are looked up, or this form
is none of the identifiers, and the platform is the first one that has it as an alias.
-/
def FindsAgain (table : PlatformTable) (platform : Value) : Prop :=
  platform.nameKey = platform ∨
    table.lists platform.nameKey = false ∧
      table.ofAlias? platform.nameKey = some platform

theorem isSome_ofAlias? (table : PlatformTable) (key : Value) :
    (table.ofAlias? key).isSome = table.hasAlias key := by
  rw [ofAlias?, hasAlias, Option.isSome_map, List.isSome_find?]

theorem lists_of_ofAlias?
    (typed : table.IsTyped) (found : table.ofAlias? key = some platform) :
    table.lists platform = true := by
  obtain ⟨row, isRow, rfl⟩ := Option.map_eq_some_iff.1 found
  have member := List.mem_of_find?_eq_some isRow
  exact
    List.any_eq_true.2
      ⟨row, member, (typed row member).1.sameKey_iff.2 rfl⟩

/-- Where a name does not stand for itself, it is an alias of what it stands for. -/
theorem identify_cases (table : PlatformTable) (key : Value) :
    (table.lists key = true ∨ table.hasAlias key = false) ∧
        table.identify key = key ∨
      table.lists key = false ∧
        table.ofAlias? key = some (table.identify key) := by
  cases isListed : table.lists key with
  | true => exact .inl ⟨.inl rfl, if_pos isListed⟩
  | false =>
      have isIdentity :
          table.identify key = (table.ofAlias? key).getD key := by
        rw [identify, isListed, if_neg Bool.false_ne_true]
      rw [← isSome_ofAlias?, isIdentity]
      cases table.ofAlias? key with
      | none => exact .inl ⟨.inr rfl, rfl⟩
      | some platform => exact .inr ⟨rfl, rfl⟩

/-- A name stands for an identifier if it is one, or an alias of one. -/
theorem lists_identify_iff (typed : table.IsTyped) (key : Value) :
    table.lists (table.identify key) = true ↔
      table.lists key = true ∨ table.hasAlias key = true := by
  rcases table.identify_cases key with ⟨itself, same⟩ | ⟨notListed, found⟩
  · rw [same]
    rcases itself with listed | noAlias
    · simp [listed]
    · simp [noAlias]
  · have isAlias : table.hasAlias key = true := by
      rw [← isSome_ofAlias?, found]
      rfl
    exact iff_of_true (lists_of_ofAlias? typed found) (.inr isAlias)

theorem standsFor_eq_self_iff (listed : table.lists platform = true) :
    table.standsFor platform = platform ↔ table.FindsAgain platform := by
  rw [standsFor, FindsAgain]
  rcases table.identify_cases platform.nameKey with
    ⟨itself, same⟩ | ⟨notListed, found⟩
  · rw [same]
    refine (or_iff_left ?_).symm
    rintro ⟨notListed, found⟩
    rcases itself with isListed | noAlias
    · rw [notListed] at isListed
      cases isListed
    · rw [← isSome_ofAlias?, found] at noAlias
      cases noAlias
  · have notSpelled : platform.nameKey ≠ platform := by
      intro same
      rw [same, listed] at notListed
      cases notListed
    rw [or_iff_right notSpelled, and_iff_right notListed, found,
      Option.some_inj]

/-- What a name stands for stands for itself, unless it comes from an alias and is not found. -/
theorem standsFor_standsFor_iff
    (typed : table.IsTyped) (name : Value) :
    table.standsFor (table.standsFor name) = table.standsFor name ↔
      (table.lists name.nameKey = true ∨
        table.hasAlias name.nameKey = false) ∨
        table.FindsAgain (table.standsFor name) := by
  rcases table.identify_cases name.nameKey with
    ⟨itself, same⟩ | ⟨notListed, found⟩
  · refine iff_of_true ?_ (.inl itself)
    have isKey : table.standsFor name = name.nameKey := same
    rw [isKey, standsFor, Value.nameKey_nameKey, same]
  · have listed : table.lists (table.standsFor name) = true :=
      lists_of_ofAlias? typed found
    have isAlias : table.hasAlias name.nameKey = true := by
      rw [← isSome_ofAlias?, found]
      rfl
    rw [standsFor_eq_self_iff listed, notListed, isAlias]
    simp

/-- Whether a name is known stays the same, unless an alias leads to what is not found at all. -/
theorem lists_standsFor_standsFor_iff
    (typed : table.IsTyped) (name : Value) :
    table.lists (table.standsFor (table.standsFor name)) =
        table.lists (table.standsFor name) ↔
      (table.lists name.nameKey = true ∨
        table.hasAlias name.nameKey = false) ∨
        table.lists (table.standsFor name).nameKey = true ∨
          table.hasAlias (table.standsFor name).nameKey = true := by
  rcases table.identify_cases name.nameKey with
    ⟨itself, same⟩ | ⟨notListed, found⟩
  · refine iff_of_true ?_ (.inl itself)
    rw [(standsFor_standsFor_iff typed name).2 (.inl itself)]
  · have listed : table.lists (table.standsFor name) = true :=
      lists_of_ofAlias? typed found
    have isAlias : table.hasAlias name.nameKey = true := by
      rw [← isSome_ofAlias?, found]
      rfl
    rw [listed, notListed, isAlias, ← lists_identify_iff typed]
    simp [standsFor]

end PlatformTable

namespace Configuration

variable {configuration : Configuration} {table : PlatformTable}
  {name : Value}

theorem normalize_of_isText
    (tabled : configuration.platformTable = .ok table)
    (typed : table.IsTyped) (isText : name.IsText) :
    configuration.normalize name = .ok (table.standsFor name) := by
  obtain ⟨stripped, strips, lowers⟩ := isText.exists_stripped
  exact normalize_eq tabled typed.isReadable strips lowers

theorem isKnown_of_isText
    (tabled : configuration.platformTable = .ok table)
    (typed : table.IsTyped) (isText : name.IsText) :
    configuration.isKnown name =
      .ok (table.lists (table.standsFor name)) := by
  rw [isKnown, normalize_of_isText tabled typed isText,
    platformNames_eq tabled, PlatformTable.lists]
  show Except.ok ((table.map Prod.fst).any _) = _
  rw [List.any_map]
  rfl

/--
With a table of texts every text can be looked up, and what it stands for again.  The two
lookups agree exactly if the name is an identifier or no alias, or its platform is found
again; and the name is known as much as what it stands for exactly if it is an identifier
or no alias, or its platform is found at all.
-/
theorem normalize_again_iff
    (tabled : configuration.platformTable = .ok table)
    (typed : table.IsTyped) (isText : name.IsText) :
    ∃ once twice isKnown isKnownAgain,
      configuration.normalize name = .ok once ∧
        configuration.normalize once = .ok twice ∧
        configuration.isKnown name = .ok isKnown ∧
        configuration.isKnown once = .ok isKnownAgain ∧
        (twice = once ↔
          (table.lists name.nameKey = true ∨
            table.hasAlias name.nameKey = false) ∨
            table.FindsAgain once) ∧
        (isKnownAgain = isKnown ↔
          (table.lists name.nameKey = true ∨
            table.hasAlias name.nameKey = false) ∨
            table.lists once.nameKey = true ∨
              table.hasAlias once.nameKey = true) := by
  have onceText : (table.standsFor name).IsText :=
    PlatformTable.isText_identify typed.isReadable isText.nameKey
  exact
    ⟨table.standsFor name, table.standsFor (table.standsFor name),
      table.lists (table.standsFor name),
      table.lists (table.standsFor (table.standsFor name)),
      normalize_of_isText tabled typed isText,
      normalize_of_isText tabled typed onceText,
      isKnown_of_isText tabled typed isText,
      isKnown_of_isText tabled typed onceText,
      PlatformTable.standsFor_standsFor_iff typed name,
      PlatformTable.lists_standsFor_standsFor_iff typed name⟩

end Configuration

namespace Environment

/-- With the shipped configuration an alias leads to a platform that is found again. -/
theorem alias_settles_with_shipped :
    ∃ configuration : Configuration,
      configuration.platformTable = .ok shippedTable ∧
        shippedTable.IsTyped ∧
        (Value.text " OSX").IsText ∧
        ∃ once,
          configuration.normalize (.text " OSX") = .ok once ∧
            configuration.normalize once = .ok once ∧
            once = .text "darwin" := by
  have typed : shippedTable.IsTyped := by decide
  have isText : (Value.text " OSX").IsText := rfl
  let configuration : Configuration :=
    { environment := .mapping []
      platforms := Configuration.Shipped.platforms
      descriptor := (Workspace.withSettings []).descriptor }
  have tabled : configuration.platformTable = .ok shippedTable := rfl
  obtain ⟨once, twice, _, _, looksUp, looksUpAgain, _, _, same_iff, _⟩ :=
    Configuration.normalize_again_iff tabled typed isText
  have isDarwin :
      configuration.normalize (.text " OSX") = .ok (.text "darwin") :=
    rfl
  obtain rfl := Except.ok.inj (looksUp.symm.trans isDarwin)
  have foundAgain : shippedTable.FindsAgain (.text "darwin") :=
    .inl (Value.nameKey_text (by decide +kernel))
  rw [same_iff.2 (.inr foundAgain)] at looksUpAgain
  exact
    ⟨configuration, tabled, typed, isText, _, looksUp, looksUpAgain, rfl⟩

end Environment

namespace Session

/-- A directory with a configuration where an identifier is spelled with capital letters. -/
def withCapitalIdentifier : Session where
  files :=
    { entries :=
        [(["home"], .directory), (["home", "cfg"], .directory),
          (["home", "cfg", "environment.yaml"],
            .file
              (.text
                "environment:\n  name: tool\n  base_dependencies: [zlib]\n")),
          (["home", "cfg", "platforms.yaml"],
            .file (.text "platforms:\n  MacOS:\n    aliases: [mac]\n"))]
      directory := ["home"] }

end Session

namespace Environment

/-- What a platform that is asked for comes to when it is looked up twice. -/
structure Lookups where
  hasTypedTable : Bool
  once : Spelling
  twice : Spelling
  isKnown : Bool
  isKnownAgain : Bool
deriving Repr, DecidableEq

def lookupsOf (platform : Spelling) (session : Session) :
    Except Failure Lookups := do
  let configuration ←
    Configuration.load session.files (some (.ofString "cfg"))
  let table ← configuration.platformTable
  let once ← configuration.normalize (.ofSpelling platform)
  let twice ← configuration.normalize once
  return {
    hasTypedTable := decide table.IsTyped
    once := once.asText
    twice := twice.asText
    isKnown := ← configuration.isKnown (.ofSpelling platform)
    isKnownAgain := ← configuration.isKnown once }

/-- The warnings that are told when an environment is set up for a platform. -/
def warningsOn (platform : Spelling) (session : Session) : List Spelling :=
  let settings : Settings := { configuration := some (.ofString "cfg") }
  let started :=
    (start (asking settings platform) { host := ⟨"Linux", "", ""⟩ }).perform
      session
  started.2.history.filterMap fun occurrence =>
    match occurrence.event with
    | .notice notice =>
        if notice.level = .warning then some notice.message else none
    | _ => none

/-- An alias of an identifier with capital letters is known, but what it stands for is not. -/
theorem capital_identifier_gets_lost :
    (lookupsOf "mac" .withCapitalIdentifier).toOption =
        some
          { hasTypedTable := true
            once := "MacOS"
            twice := "macos"
            isKnown := true
            isKnownAgain := false } ∧
      warningsOn "mac" .withCapitalIdentifier =
        (["Unrecognized platform: MacOS. Known: MacOS"] : List Spelling) := by
  decide +kernel

end Environment

end NativeDeps
