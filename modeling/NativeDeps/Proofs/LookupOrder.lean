import Mathlib.Data.List.Basic
import NativeDeps.Proofs.RepeatedLookup

/-!
# The order of a lookup

What a name stands for is found in a fixed order: an identifier wins, also over an alias of
another platform that is spelled like it; then the first platform wins that has the name
among its aliases; and a name that is in no row stands for itself.

So a table can be extended at its end.  A row that is added comes after all others, so it
takes no name away from them, except one that is its own identifier; and of the names that
were in no row it takes exactly its identifier and its aliases.
-/

namespace NativeDeps

namespace PlatformTable

variable {table : PlatformTable} {key platform added : Value}
  {others : List Value}

/-- Whether a name is an identifier of a table. -/
def HasIdentifier (table : PlatformTable) (key : Value) : Prop :=
  ∃ row ∈ table, row.1 = key

/-- Whether a name is an alias in a table, whatever the letter case of the alias. -/
def HasSpelling (table : PlatformTable) (key : Value) : Prop :=
  ∃ row ∈ table, ∃ other ∈ row.2, other.lowered = .ok key

/-- Whether a name is in some row of a table. -/
def Knows (table : PlatformTable) (key : Value) : Prop :=
  table.HasIdentifier key ∨ table.HasSpelling key

/-- What a name stands for, by the order in which a table is to be read. -/
inductive Denotes (table : PlatformTable) (key : Value) : Value → Prop
  /-- An identifier stands for itself, whatever the aliases are. -/
  | identifier (listed : table.HasIdentifier key) : Denotes table key key
  /-- An alias stands for the first platform that has it. -/
  | ofAlias {before after : PlatformTable} {platform : Value}
      {others : List Value}
      (notListed : ¬ table.HasIdentifier key)
      (rows : table = before ++ (platform, others) :: after)
      (spelled : ∃ other ∈ others, other.lowered = .ok key)
      (isFirst : ¬ HasSpelling before key) : Denotes table key platform
  /-- A name that is in no row stands for itself. -/
  | unknown (notKnown : ¬ table.Knows key) : Denotes table key key

theorem hasIdentifier_append (left right : PlatformTable) (key : Value) :
    HasIdentifier (left ++ right) key ↔
      left.HasIdentifier key ∨ right.HasIdentifier key := by
  simp only [HasIdentifier, List.mem_append, or_and_right, exists_or]

theorem hasSpelling_append (left right : PlatformTable) (key : Value) :
    HasSpelling (left ++ right) key ↔
      left.HasSpelling key ∨ right.HasSpelling key := by
  simp only [HasSpelling, List.mem_append, or_and_right, exists_or]

theorem hasIdentifier_singleton :
    HasIdentifier [(added, others)] key ↔ added = key := by
  simp [HasIdentifier]

theorem hasSpelling_singleton :
    HasSpelling [(added, others)] key ↔
      ∃ other ∈ others, other.lowered = .ok key := by
  simp [HasSpelling]

theorem spells_iff {other : Value} (isText : other.IsText) :
    spells key other = true ↔ other.lowered = .ok key := by
  obtain ⟨lowered, lowers, loweredText⟩ := isText.lowered
  rw [spells, lowers, loweredText.sameKey_iff, Except.ok.injEq]

theorem lists_iff (typed : table.IsTyped) :
    table.lists key = true ↔ table.HasIdentifier key := by
  rw [lists, List.any_eq_true]
  constructor
  · rintro ⟨row, member, same⟩
    exact ⟨row, member, (typed row member).1.sameKey_iff.1 same⟩
  · rintro ⟨row, member, same⟩
    exact ⟨row, member, (typed row member).1.sameKey_iff.2 same⟩

theorem any_spells_iff
    (texts : ∀ other ∈ others, other.IsText) :
    others.any (spells key) = true ↔
      ∃ other ∈ others, other.lowered = .ok key := by
  rw [List.any_eq_true]
  constructor
  · rintro ⟨other, member, spelled⟩
    exact ⟨other, member, (spells_iff (texts other member)).1 spelled⟩
  · rintro ⟨other, member, spelled⟩
    exact ⟨other, member, (spells_iff (texts other member)).2 spelled⟩

theorem hasAlias_iff (typed : table.IsTyped) :
    table.hasAlias key = true ↔ table.HasSpelling key := by
  rw [hasAlias, List.any_eq_true]
  constructor
  · rintro ⟨row, member, spelled⟩
    exact ⟨row, member, (any_spells_iff (typed row member).2).1 spelled⟩
  · rintro ⟨row, member, spelled⟩
    exact ⟨row, member, (any_spells_iff (typed row member).2).2 spelled⟩

theorem IsTyped.of_append_left
    {left right : PlatformTable} (typed : IsTyped (left ++ right)) :
    left.IsTyped := by
  intro row member
  exact typed row (List.mem_append_left right member)

theorem IsTyped.row
    {before after : PlatformTable}
    (typed : IsTyped (before ++ (platform, others) :: after)) :
    ∀ other ∈ others, other.IsText :=
  (typed (platform, others)
    (List.mem_append_right before List.mem_cons_self)).2

/-- The platform of an alias is the first one that has it. -/
theorem ofAlias?_eq_some_iff (typed : table.IsTyped) :
    table.ofAlias? key = some platform ↔
      ∃ before others after,
        table = before ++ (platform, others) :: after ∧
          (∃ other ∈ others, other.lowered = .ok key) ∧
          ¬ HasSpelling before key := by
  rw [ofAlias?, Option.map_eq_some_iff]
  constructor
  · rintro ⟨⟨platform, others⟩, found, rfl⟩
    obtain ⟨spelled, before, after, rfl, earlier⟩ :=
      List.find?_eq_some_iff_append.1 found
    refine
      ⟨before, others, after, rfl, (any_spells_iff typed.row).1 spelled, ?_⟩
    rintro ⟨row, member, isSpelled⟩
    have texts := (typed.of_append_left row member).2
    have notHere := earlier row member
    rw [(any_spells_iff texts).2 isSpelled] at notHere
    cases notHere
  · rintro ⟨before, others, after, rfl, spelled, isFirst⟩
    refine ⟨(platform, others), List.find?_eq_some_iff_append.2 ?_, rfl⟩
    refine
      ⟨(any_spells_iff typed.row).2 spelled, before, after, rfl, ?_⟩
    intro row member
    have texts := (typed.of_append_left row member).2
    rw [Bool.not_eq_eq_eq_not, Bool.not_true, Bool.eq_false_iff]
    intro isSpelled
    exact isFirst ⟨row, member, (any_spells_iff texts).1 isSpelled⟩

/-- The lookup follows the order: every name stands for exactly one thing. -/
theorem denotes_iff (typed : table.IsTyped) :
    table.Denotes key platform ↔ platform = table.identify key := by
  constructor
  · intro denotes
    rw [identify]
    cases denotes with
    | identifier listed => rw [if_pos ((lists_iff typed).2 listed)]
    | ofAlias notListed rows spelled isFirst =>
        have found :=
          (ofAlias?_eq_some_iff typed).2 ⟨_, _, _, rows, spelled, isFirst⟩
        rw [if_neg (mt (lists_iff typed).1 notListed), found]
        rfl
    | unknown notKnown =>
        obtain ⟨notListed, notSpelled⟩ := not_or.1 notKnown
        have notAlias : table.ofAlias? key = none := by
          rw [← Option.not_isSome_iff_eq_none, isSome_ofAlias?,
            hasAlias_iff typed]
          exact notSpelled
        rw [if_neg (mt (lists_iff typed).1 notListed), notAlias]
        rfl
  · rintro rfl
    rcases table.identify_cases key with
      ⟨itself, same⟩ | ⟨notListed, found⟩
    · rw [same]
      by_cases listed : table.HasIdentifier key
      · exact .identifier listed
      · apply Denotes.unknown
        rintro (isListed | isSpelled)
        · exact listed isListed
        · rcases itself with isListed | noAlias
          · exact listed ((lists_iff typed).1 isListed)
          · rw [(hasAlias_iff typed).2 isSpelled] at noAlias
            cases noAlias
    · obtain ⟨before, others, after, rows, spelled, isFirst⟩ :=
        (ofAlias?_eq_some_iff typed).1 found
      refine .ofAlias ?_ rows spelled isFirst
      intro listed
      rw [(lists_iff typed).2 listed] at notListed
      cases notListed

/-- A row at the end takes no known name away, unless it is the identifier of the row. -/
theorem Denotes.append_of_knows
    (denotes : table.Denotes key platform) (known : table.Knows key)
    (notAdded : key ≠ added) :
    Denotes (table ++ [(added, others)]) key platform := by
  have notListedLater (notListed : ¬ table.HasIdentifier key) :
      ¬ HasIdentifier (table ++ [(added, others)]) key := by
    rw [hasIdentifier_append, hasIdentifier_singleton]
    rintro (listed | isAdded)
    · exact notListed listed
    · exact notAdded isAdded.symm
  cases denotes with
  | identifier listed =>
      exact .identifier ((hasIdentifier_append _ _ _).2 (.inl listed))
  | @ofAlias before after _ rowOthers notListed rows spelled isFirst =>
      have longerRows :
          table ++ [(added, others)] =
            before ++ (platform, rowOthers) :: (after ++ [(added, others)]) := by
        rw [rows, List.append_assoc, List.cons_append]
      exact .ofAlias (notListedLater notListed) longerRows spelled isFirst
  | unknown notKnown => exact absurd known notKnown

/-- A row at the end takes its identifier and its aliases of the names that are in no row. -/
theorem denotes_append_of_not_knows
    (added : Value) (others : List Value) (notKnown : ¬ table.Knows key) :
    ((added = key ∨ ∃ other ∈ others, other.lowered = .ok key) →
        Denotes (table ++ [(added, others)]) key added) ∧
      (¬ (added = key ∨ ∃ other ∈ others, other.lowered = .ok key) →
        Denotes (table ++ [(added, others)]) key key) := by
  obtain ⟨notListed, notSpelled⟩ := not_or.1 notKnown
  constructor
  · intro taken
    by_cases isAdded : added = key
    · subst isAdded
      apply Denotes.identifier
      exact
        (hasIdentifier_append _ _ _).2 (.inr (hasIdentifier_singleton.2 rfl))
    · refine
        .ofAlias ?_ rfl (taken.resolve_left isAdded) notSpelled
      rw [hasIdentifier_append, hasIdentifier_singleton]
      exact not_or.2 ⟨notListed, isAdded⟩
  · intro notTaken
    apply Denotes.unknown
    rw [Knows, hasIdentifier_append, hasIdentifier_singleton,
      hasSpelling_append, hasSpelling_singleton]
    rintro ((listed | isAdded) | spelled | isAlias)
    · exact notListed listed
    · exact notTaken (.inl isAdded)
    · exact notSpelled spelled
    · exact notTaken (.inr isAlias)

end PlatformTable

namespace Configuration

open PlatformTable

variable {configuration grown : Configuration} {table : PlatformTable}
  {name added : Value} {others : List Value}

/--
With a table of texts every text stands for exactly what the order of the lookup says.  If
another configuration has one more row at the end of its table, every known name stands
for the same as before, unless it is the identifier of the new row; and a name that was in
no row stands for the new platform exactly if it is its identifier or one of its aliases,
and for itself otherwise.
-/
theorem normalize_in_grown_table
    (tabled : configuration.platformTable = .ok table)
    (grownTabled : grown.platformTable = .ok (table ++ [(added, others)]))
    (typed : PlatformTable.IsTyped (table ++ [(added, others)]))
    (isText : name.IsText) :
    ∃ platform grownPlatform,
      configuration.normalize name = .ok platform ∧
        grown.normalize name = .ok grownPlatform ∧
        (∀ other, table.Denotes name.nameKey other ↔ other = platform) ∧
        (table.Knows name.nameKey →
          name.nameKey ≠ added → grownPlatform = platform) ∧
        (¬ table.Knows name.nameKey →
          (grownPlatform = added ↔
              added = name.nameKey ∨
                ∃ other ∈ others, other.lowered = .ok name.nameKey) ∧
            (grownPlatform ≠ added → grownPlatform = name.nameKey)) := by
  have tableTyped : table.IsTyped := typed.of_append_left
  refine
    ⟨table.standsFor name,
      PlatformTable.standsFor (table ++ [(added, others)]) name,
      normalize_of_isText tabled tableTyped isText,
      normalize_of_isText grownTabled typed isText,
      fun other => denotes_iff tableTyped, ?_, ?_⟩
  · intro known notAdded
    have before : table.Denotes name.nameKey (table.standsFor name) :=
      (denotes_iff tableTyped).2 rfl
    exact
      ((denotes_iff typed).1 (before.append_of_knows known notAdded)).symm
  · intro notKnown
    obtain ⟨ifTaken, ifNotTaken⟩ :=
      denotes_append_of_not_knows added others notKnown
    by_cases taken :
        added = name.nameKey ∨
          ∃ other ∈ others, other.lowered = .ok name.nameKey
    · have isAdded := (denotes_iff typed).1 (ifTaken taken)
      exact
        ⟨iff_of_true isAdded.symm taken,
          fun notAdded => absurd isAdded.symm notAdded⟩
    · have isItself := (denotes_iff typed).1 (ifNotTaken taken)
      refine ⟨iff_of_false ?_ taken, fun _ => isItself.symm⟩
      intro isAdded
      exact taken (.inl (isAdded.symm.trans isItself.symm))

open Environment (shippedTable)

/-- The shipped platforms, and one more that shares an alias with an earlier one. -/
def grownPlatforms : Value :=
  Shipped.object
    [("platforms",
      Shipped.object
        [("linux",
            Shipped.object
              [("aliases", Shipped.texts ["linux2", "gnu/linux"])]),
          ("darwin",
            Shipped.object
              [("aliases",
                Shipped.texts ["macos", "osx", "macosx", "mac"])]),
          ("windows",
            Shipped.object
              [("aliases",
                Shipped.texts ["win32", "win64", "win", "cygwin", "msys"])]),
          ("freebsd", Shipped.object [("aliases", Shipped.texts [])]),
          ("haiku",
            Shipped.object [("aliases", Shipped.texts ["BeOS", "mac"])])])]

/-- In the grown table an earlier platform keeps its alias, and a new alias is found. -/
theorem normalize_in_grown_shipped :
    ∃ shipped grown : Configuration,
      shipped.platformTable = .ok shippedTable ∧
        grown.platformTable =
          .ok
            (shippedTable ++
              [(.text "haiku", [.text "BeOS", .text "mac"])]) ∧
        PlatformTable.IsTyped
          (shippedTable ++
            [(.text "haiku", [.text "BeOS", .text "mac"])]) ∧
        (Value.text " Mac").IsText ∧ (Value.text "beos").IsText ∧
        shipped.normalize (.text " Mac") = .ok (.text "darwin") ∧
        grown.normalize (.text " Mac") = .ok (.text "darwin") ∧
        grown.normalize (.text "beos") = .ok (.text "haiku") := by
  let shipped : Configuration :=
    { environment := .mapping []
      platforms := Shipped.platforms
      descriptor := (Workspace.withSettings []).descriptor }
  let grown : Configuration := { shipped with platforms := grownPlatforms }
  have tabled : shipped.platformTable = .ok shippedTable := rfl
  have grownTabled :
      grown.platformTable =
        .ok
          (shippedTable ++
            [(.text "haiku", [.text "BeOS", .text "mac"])]) :=
    rfl
  have typed :
      PlatformTable.IsTyped
        (shippedTable ++
          [(.text "haiku", [.text "BeOS", .text "mac"])]) := by
    decide
  have lowers (name lower : String) (isLower : Text.lower name = lower) :
      (Value.text name).lowered = .ok (.text lower) :=
    congrArg (fun key => Except.ok (Value.text key)) isLower
  have macKey : (Value.text " Mac").nameKey = .text "mac" :=
    Value.nameKey_text (by decide +kernel)
  have beosKey : (Value.text "beos").nameKey = .text "beos" :=
    Value.nameKey_text (by decide +kernel)
  obtain ⟨platform, grownPlatform, looksUp, looksUpGrown, _, staysSame, _⟩ :=
    normalize_in_grown_table tabled grownTabled typed
      (show (Value.text " Mac").IsText from rfl)
  obtain ⟨_, haiku, _, looksUpHaiku, _, _, isTaken⟩ :=
    normalize_in_grown_table tabled grownTabled typed
      (show (Value.text "beos").IsText from rfl)
  have isDarwin :
      shipped.normalize (.text " Mac") = .ok (.text "darwin") :=
    rfl
  obtain rfl := Except.ok.inj (looksUp.symm.trans isDarwin)
  have macKnown : shippedTable.Knows (Value.text " Mac").nameKey := by
    rw [macKey]
    refine .inr ⟨shippedTable[1], by simp [shippedTable], .text "mac", ?_, ?_⟩
    · simp [shippedTable]
    · exact lowers "mac" "mac" (by decide +kernel)
  have stillDarwin : grownPlatform = .text "darwin" :=
    staysSame macKnown (by rw [macKey]; simp)
  have beosNotKnown : ¬ shippedTable.Knows (Value.text "beos").nameKey := by
    have shippedTyped : shippedTable.IsTyped := typed.of_append_left
    rw [beosKey, Knows, ← lists_iff shippedTyped, ← hasAlias_iff shippedTyped]
    decide +kernel
  have isHaiku : haiku = .text "haiku" := by
    refine (isTaken beosNotKnown).1.2 (.inr ⟨.text "BeOS", ?_, ?_⟩)
    · exact List.mem_cons_self
    · rw [beosKey]
      exact lowers "BeOS" "beos" (by decide +kernel)
  rw [stillDarwin] at looksUpGrown
  rw [isHaiku] at looksUpHaiku
  exact
    ⟨shipped, grown, tabled, grownTabled, typed, rfl, rfl, looksUp,
      looksUpGrown, looksUpHaiku⟩

end Configuration

end NativeDeps
