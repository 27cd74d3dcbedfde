import Mathlib.Data.List.Basic
import NativeDeps.Configuration
import NativeDeps.Proofs.Value

/-!
# Platform tables

The platforms of a configuration are a table of identifiers with their aliases.  In a
table of texts every name can be looked up: an identifier stands for itself, an alias
for the first platform that has it, and any other name for itself again.

A name that is in no row is compared with every alias of the table.  So where such a
name can be looked up, all of the table can be read.
-/

namespace NativeDeps

/-- Platforms, each with its aliases. -/
abbrev PlatformTable :=
  List (Value × List Value)

namespace PlatformTable

/-- Whether all identifiers and aliases of a table are texts. -/
def IsTyped (table : PlatformTable) : Prop :=
  ∀ row ∈ table, row.1.IsText ∧ ∀ other ∈ row.2, other.IsText

instance (table : PlatformTable) : Decidable table.IsTyped :=
  inferInstanceAs (Decidable (∀ row ∈ table, _))

/-- Whether every name can be compared with the aliases, and the identifiers be listed. -/
def IsReadable (table : PlatformTable) : Prop :=
  ∀ row ∈ table,
    row.1.IsText ∧
      ∀ other ∈ row.2, ∃ lowered, other.lowered = .ok lowered

theorem IsTyped.isReadable {table : PlatformTable} (typed : table.IsTyped) :
    table.IsReadable := by
  intro row member
  obtain ⟨isText, texts⟩ := typed row member
  refine ⟨isText, fun other isAlias => ?_⟩
  obtain ⟨lowered, asked, _⟩ := (texts other isAlias).lowered
  exact ⟨lowered, asked⟩

def lists (table : PlatformTable) (key : Value) : Bool :=
  table.any (·.1.sameKey key)

/-- Whether an alias is a spelling of a name, whatever its letter case. -/
def spells (key other : Value) : Bool :=
  match other.lowered with
  | .ok lowered => lowered.sameKey key
  | .error _ => false

/-- The first platform that has a name among its aliases. -/
def ofAlias? (table : PlatformTable) (key : Value) : Option Value :=
  (table.find? fun row => row.2.any (spells key)).map Prod.fst

/-- What a name stands for: itself, unless it is only an alias. -/
def identify (table : PlatformTable) (key : Value) : Value :=
  if table.lists key then key else (table.ofAlias? key).getD key

/-- Whether a name is an alias of some platform. -/
def hasAlias (table : PlatformTable) (key : Value) : Bool :=
  table.any fun row => row.2.any (spells key)

/-- A name stands for itself if it is an identifier, or else if it is no alias. -/
theorem identify_eq_self_iff
    {table : PlatformTable} (typed : table.IsTyped) (key : Value) :
    table.identify key = key ↔
      table.lists key = true ∨ table.hasAlias key = false := by
  rw [identify]
  split_ifs with isListed
  · simp [isListed]
  · rw [ofAlias?, hasAlias, List.any_eq_false]
    cases found : table.find? fun row => row.2.any (spells key) with
    | none => exact iff_of_true rfl (.inr (List.find?_eq_none.1 found))
    | some row =>
        have member := List.mem_of_find?_eq_some found
        have isAlias := List.find?_some found
        constructor
        · intro same
          refine absurd ?_ isListed
          rw [lists, List.any_eq_true]
          exact ⟨row, member, (typed row member).1.sameKey_iff.2 same⟩
        · rintro (listed | noAlias)
          · exact absurd listed isListed
          · exact absurd isAlias (noAlias row member)

/-- Every text stands for a text. -/
theorem isText_identify
    {table : PlatformTable} (readable : table.IsReadable) {key : Value}
    (isText : key.IsText) : (table.identify key).IsText := by
  rw [identify]
  split_ifs
  · exact isText
  · rw [ofAlias?]
    cases found : table.find? fun row => row.2.any (spells key) with
    | none => exact isText
    | some row => exact (readable row (List.mem_of_find?_eq_some found)).1

/-- What a name stands for in the form in which names are compared. -/
def meaning (table : PlatformTable) (name : Spelling) : Value :=
  table.identify (.ofSpelling (PlatformCondition.hostKey name))

end PlatformTable

namespace Configuration

open PlatformTable

/-- The table of the platforms of a configuration. -/
def platformTable (configuration : Configuration) :
    Except Failure PlatformTable := do
  let platforms ← configuration.platformSection
  let entries ← platforms.entries
  entries.mapM fun entry => do return (entry.1, ← aliases entry.2)

theorem isAlias_eq
    {others : List Value}
    (readable : ∀ other ∈ others, ∃ lowered, other.lowered = .ok lowered)
    (key : Value) : isAlias key others = .ok (others.any (spells key)) := by
  induction others with
  | nil => rfl
  | cons other rest induction =>
      obtain ⟨⟨lowered, asked⟩, restReadable⟩ :=
        List.forall_mem_cons.1 readable
      have restAsked := induction restReadable
      have spelled : spells key other = lowered.sameKey key := by
        rw [spells, asked]
      rw [isAlias, asked, List.any_cons, spelled]
      dsimp only
      cases lowered.sameKey key with
      | true => rfl
      | false => exact restAsked

/-- An entry of a configuration and the row of the table that is made of it. -/
def IsRow (entry : Value × Value) (row : Value × List Value) : Prop :=
  entry.1 = row.1 ∧ aliases entry.2 = .ok row.2

theorem forall₂_isRow_of_mapM
    {entries : List (Value × Value)} {table : PlatformTable}
    (tabled :
      entries.mapM
          (fun entry => do return (entry.1, ← aliases entry.2)) =
        .ok table) :
    List.Forall₂ IsRow entries table := by
  induction entries generalizing table with
  | nil =>
      obtain rfl := Except.ok.inj tabled
      exact .nil
  | cons entry rest induction =>
      rw [List.mapM_cons] at tabled
      cases asked : aliases entry.2 with
      | error failure =>
          rw [asked] at tabled
          cases tabled
      | ok others =>
          cases restTabled :
              rest.mapM
                (fun entry => do return (entry.1, ← aliases entry.2)) with
          | error failure =>
              rw [asked, restTabled] at tabled
              cases tabled
          | ok rows =>
              rw [asked, restTabled] at tabled
              obtain rfl := Except.ok.inj tabled
              exact .cons ⟨rfl, asked⟩ (induction restTabled)

/-- A table is made of the entries of the section. -/
theorem exists_entries_of_platformTable
    {configuration : Configuration} {table : PlatformTable}
    (tabled : configuration.platformTable = .ok table) :
    ∃ platforms entries,
      configuration.platformSection = .ok platforms ∧
        platforms.entries = .ok entries ∧
        List.Forall₂ IsRow entries table := by
  rw [platformTable] at tabled
  cases known : configuration.platformSection with
  | error failure =>
      rw [known] at tabled
      cases tabled
  | ok platforms =>
      rw [known] at tabled
      cases asked : platforms.entries with
      | error failure =>
          change (platforms.entries >>= _) = _ at tabled
          rw [asked] at tabled
          cases tabled
      | ok entries =>
          change (platforms.entries >>= _) = _ at tabled
          rw [asked] at tabled
          exact
            ⟨platforms, entries, rfl, asked, forall₂_isRow_of_mapM tabled⟩

theorem any_sameKey_eq
    {entries : List (Value × Value)} {table : PlatformTable}
    (rows : List.Forall₂ IsRow entries table) (key : Value) :
    entries.any (·.1.sameKey key) = table.lists key := by
  induction rows with
  | nil => rfl
  | cons isRow rest induction =>
      rw [lists, List.any_cons, List.any_cons, isRow.1, induction, lists]

theorem platformOfAlias_eq
    {entries : List (Value × Value)} {table : PlatformTable}
    (rows : List.Forall₂ IsRow entries table) (readable : table.IsReadable)
    (key : Value) :
    platformOfAlias key entries = .ok ((table.ofAlias? key).getD key) := by
  induction rows with
  | nil => rfl
  | @cons entry row entries table isRow rest induction =>
      rcases entry with ⟨platform, settings⟩
      rcases row with ⟨name, others⟩
      rcases isRow with ⟨rfl, asked⟩
      obtain ⟨⟨_, othersReadable⟩, restReadable⟩ :=
        List.forall_mem_cons.1 readable
      have restAsked := induction restReadable
      rw [platformOfAlias, asked]
      show (isAlias key others >>= _) = _
      rw [isAlias_eq othersReadable, ofAlias?, List.find?_cons]
      cases others.any (spells key) with
      | true => rfl
      | false => exact restAsked

/-- A name that is no key of the section is compared with the aliases. -/
theorem normalize_of_entries
    {configuration : Configuration} {platforms : Value}
    {entries : List (Value × Value)}
    (known : configuration.platformSection = .ok platforms)
    (asked : platforms.entries = .ok entries) {name stripped key : Value}
    (strips : name.stripped = .ok stripped)
    (lowers : stripped.lowered = .ok key) :
    configuration.normalize name =
      if entries.any (·.1.sameKey key) then
        .ok key
      else
        platformOfAlias key entries := by
  rw [normalize, strips]
  show (stripped.lowered >>= _) = _
  rw [lowers, known]
  show (platforms.holds key >>= _) = _
  rw [Value.holds_of_entries asked]
  cases entries.any (·.1.sameKey key) with
  | true => rfl
  | false =>
      show (platforms.entries >>= _) = _
      rw [asked]
      rfl

/-- Every text is normalized to what it stands for in the table. -/
theorem normalize_eq
    {configuration : Configuration} {table : PlatformTable}
    (tabled : configuration.platformTable = .ok table)
    (readable : table.IsReadable) {name stripped key : Value}
    (strips : name.stripped = .ok stripped)
    (lowers : stripped.lowered = .ok key) :
    configuration.normalize name = .ok (table.identify key) := by
  obtain ⟨platforms, entries, known, asked, rows⟩ :=
    exists_entries_of_platformTable tabled
  rw [normalize_of_entries known asked strips lowers, any_sameKey_eq rows,
    platformOfAlias_eq rows readable, identify]
  split_ifs <;> rfl

/-- The text of a name is normalized to what the name stands for. -/
theorem normalize_ofSpelling
    {configuration : Configuration} {table : PlatformTable}
    (tabled : configuration.platformTable = .ok table)
    (readable : table.IsReadable) (name : Spelling) :
    configuration.normalize (.ofSpelling name) = .ok (table.meaning name) :=
  normalize_eq tabled readable (Value.stripped_ofSpelling name)
    (Value.lowered_ofSpelling _)

theorem map_fst_eq
    {entries : List (Value × Value)} {table : PlatformTable}
    (rows : List.Forall₂ IsRow entries table) :
    entries.map Prod.fst = table.map Prod.fst := by
  induction rows with
  | nil => rfl
  | cons isRow _ induction =>
      rw [List.map_cons, List.map_cons, isRow.1, induction]

theorem platformNames_eq
    {configuration : Configuration} {table : PlatformTable}
    (tabled : configuration.platformTable = .ok table) :
    configuration.platformNames = .ok (table.map Prod.fst) := by
  obtain ⟨platforms, entries, known, asked, rows⟩ :=
    exists_entries_of_platformTable tabled
  rw [platformNames, known]
  show (platforms.entries >>= _) = _
  rw [asked, ← map_fst_eq rows]
  rfl

theorem exists_entries_of_isKnown
    {configuration : Configuration} {name : Value} {isKnown : Bool}
    (asked : configuration.isKnown name = .ok isKnown) :
    ∃ platforms entries,
      configuration.platformSection = .ok platforms ∧
        platforms.entries = .ok entries := by
  rw [Configuration.isKnown, platformNames] at asked
  cases normalizes : configuration.normalize name with
  | error failure =>
      rw [normalizes] at asked
      cases asked
  | ok platform =>
      rw [normalizes] at asked
      cases known : configuration.platformSection with
      | error failure =>
          rw [known] at asked
          cases asked
      | ok platforms =>
          rw [known] at asked
          change ((platforms.entries >>= _) >>= _) = _ at asked
          cases entered : platforms.entries with
          | error failure =>
              rw [entered] at asked
              cases asked
          | ok entries => exact ⟨platforms, entries, rfl, entered⟩

/-- Of every text it is known whether it is a platform. -/
theorem exists_isKnown
    {configuration : Configuration} {table : PlatformTable}
    (tabled : configuration.platformTable = .ok table)
    (readable : table.IsReadable) {name : Value} (isText : name.IsText) :
    ∃ isKnown, configuration.isKnown name = .ok isKnown := by
  obtain ⟨stripped, strips, strippedText⟩ := isText.stripped
  obtain ⟨key, lowers, _⟩ := strippedText.lowered
  rw [isKnown, normalize_eq tabled readable strips lowers,
    platformNames_eq tabled]
  exact ⟨_, rfl⟩

/-- The platforms of a table that can be read can be listed. -/
theorem exists_platformNames
    {configuration : Configuration} {table : PlatformTable}
    (tabled : configuration.platformTable = .ok table)
    (readable : table.IsReadable) :
    ∃ values names,
      configuration.platformNames = .ok values ∧
        Value.toSpellings values = .ok names := by
  have texts : ∀ value ∈ table.map Prod.fst, value.IsText := by
    intro value member
    obtain ⟨row, isRow, rfl⟩ := List.mem_map.1 member
    exact (readable row isRow).1
  obtain ⟨names, named⟩ := (Value.exists_toSpellings_iff _).2 texts
  exact ⟨_, names, platformNames_eq tabled, named⟩

/-- What can stand for a platform in its entry: its identifier and its aliases. -/
def spellings (entry : Value × Value) : List Value :=
  entry.1 ::
    ((aliases entry.2).toOption.getD []).filterMap fun other =>
      other.lowered.toOption

/-- A name that stands nowhere in the section. -/
def IsFresh (name : Spelling) (entries : List (Value × Value)) : Prop :=
  ∀ entry ∈ entries, .ofSpelling name ∉ spellings entry

theorem spells_eq_false
    {name : Spelling} {entry : Value × Value} {others : List Value}
    (fresh : .ofSpelling name ∉ spellings entry)
    (asked : aliases entry.2 = .ok others) :
    ∀ other ∈ others, spells (.ofSpelling name) other = false := by
  intro other member
  rw [spells]
  cases lowers : other.lowered with
  | error failure => rfl
  | ok lowered =>
      refine Bool.eq_false_iff.2 fun same => fresh ?_
      obtain rfl := Value.sameKey_ofSpelling_iff.1 same
      rw [spellings, asked]
      refine List.mem_cons_of_mem _ (List.mem_filterMap.2 ⟨other, member, ?_⟩)
      rw [lowers]
      rfl

/-- A name that is no alias is compared with every alias. -/
theorem readable_of_isAlias
    {key : Value} {others : List Value} {isFound : Bool}
    (noSpelling : ∀ other ∈ others, spells key other = false)
    (asked : isAlias key others = .ok isFound) :
    isFound = false ∧
      ∀ other ∈ others, ∃ lowered, other.lowered = .ok lowered := by
  induction others with
  | nil => exact ⟨(Except.ok.inj asked).symm, nofun⟩
  | cons other rest induction =>
      obtain ⟨notThis, notRest⟩ := List.forall_mem_cons.1 noSpelling
      rw [isAlias] at asked
      rw [spells] at notThis
      cases lowers : other.lowered with
      | error failure =>
          rw [lowers] at asked
          cases asked
      | ok lowered =>
          rw [lowers] at asked notThis
          dsimp only at asked notThis
          rw [notThis] at asked
          obtain ⟨notFound, restReadable⟩ := induction notRest asked
          exact
            ⟨notFound,
              List.forall_mem_cons.2 ⟨⟨lowered, lowers⟩, restReadable⟩⟩

/-- A name that stands nowhere stands for itself, when all rows have been looked at. -/
theorem exists_table_of_platformOfAlias
    {name : Spelling} {entries : List (Value × Value)} {platform : Value}
    (fresh : IsFresh name entries)
    (asked : platformOfAlias (.ofSpelling name) entries = .ok platform) :
    platform = .ofSpelling name ∧
      ∃ table : PlatformTable,
        entries.mapM
            (fun entry => do return (entry.1, ← aliases entry.2)) =
          .ok table ∧
        ∀ row ∈ table,
          ∀ other ∈ row.2, ∃ lowered, other.lowered = .ok lowered := by
  induction entries with
  | nil => exact ⟨(Except.ok.inj asked).symm, [], rfl, nofun⟩
  | cons entry rest induction =>
      rcases entry with ⟨identifier, settings⟩
      obtain ⟨freshHere, freshLater⟩ := List.forall_mem_cons.1 fresh
      rw [platformOfAlias] at asked
      cases read : aliases settings with
      | error failure =>
          rw [read] at asked
          cases asked
      | ok others =>
          rw [read] at asked
          change (isAlias (.ofSpelling name) others >>= _) = _ at asked
          cases found : isAlias (.ofSpelling name) others with
          | error failure =>
              rw [found] at asked
              cases asked
          | ok isFound =>
              obtain ⟨rfl, readable⟩ :=
                readable_of_isAlias (spells_eq_false freshHere read) found
              rw [found] at asked
              obtain ⟨itself, table, tabled, restReadable⟩ :=
                induction freshLater asked
              refine
                ⟨itself, (identifier, others) :: table, ?_,
                  List.forall_mem_cons.2 ⟨readable, restReadable⟩⟩
              rw [List.mapM_cons, read, tabled]
              rfl

/--
If a name that stands nowhere can be looked up, and the platforms be listed where it is
not known, then the whole table can be read.
-/
theorem isReadable_of_isFresh
    {configuration : Configuration} {platforms platform : Value}
    {entries : List (Value × Value)} {name : Spelling}
    (known : configuration.platformSection = .ok platforms)
    (asked : platforms.entries = .ok entries)
    (isKey : PlatformCondition.hostKey name = name)
    (fresh : IsFresh name entries)
    (normalizes : configuration.normalize (.ofSpelling name) = .ok platform)
    (listed :
      configuration.isKnown platform = .ok false →
        ∃ values names,
          configuration.platformNames = .ok values ∧
            Value.toSpellings values = .ok names) :
    ∃ table, configuration.platformTable = .ok table ∧ table.IsReadable := by
  have notListed : entries.any (·.1.sameKey (.ofSpelling name)) = false := by
    rw [List.any_eq_false]
    intro entry member same
    refine fresh entry member ?_
    rw [spellings, Value.sameKey_ofSpelling_iff.1 same]
    exact List.mem_cons_self
  have lowers :
      (Value.ofSpelling name.strip).lowered = .ok (.ofSpelling name) := by
    rw [Value.lowered_ofSpelling, ← PlatformCondition.hostKey, isKey]
  have looksUp :=
    normalize_of_entries known asked (Value.stripped_ofSpelling name) lowers
  rw [notListed, normalizes] at looksUp
  obtain ⟨rfl, table, tabled, readable⟩ :=
    exists_table_of_platformOfAlias fresh looksUp.symm
  have isTable : configuration.platformTable = .ok table := by
    rw [platformTable, known]
    show (platforms.entries >>= _) = _
    rw [asked]
    exact tabled
  have names : entries.map Prod.fst = table.map Prod.fst :=
    map_fst_eq (forall₂_isRow_of_mapM tabled)
  have notKnown : configuration.isKnown (.ofSpelling name) = .ok false := by
    rw [isKnown, normalizes, platformNames_eq isTable, ← names]
    show Except.ok ((entries.map Prod.fst).any _) = _
    rw [List.any_map]
    exact congrArg _ notListed
  obtain ⟨values, written, listed, named⟩ := listed notKnown
  rw [platformNames_eq isTable] at listed
  obtain rfl := Except.ok.inj listed
  have texts := (Value.exists_toSpellings_iff _).1 ⟨written, named⟩
  refine ⟨table, isTable, fun row member => ⟨?_, readable row member⟩⟩
  exact texts row.1 (List.mem_map_of_mem member)

end Configuration

end NativeDeps
