import NativeDeps.Proofs.Question

/-!
# Parts that are null

A part of a configuration can be left out, and then it counts as empty.  A part with an
empty body is null instead, and this is not the same: every question that comes to the part
fails, while all other questions are answered as if it were left out.

A section is what a question comes to first, except that a name is brought into the form
in which it is compared before that.  The aliases of a platform are come to only by a name
that is no identifier, and only if the search has not ended with an earlier platform.
-/

namespace NativeDeps

namespace Value

variable {before after : Value} {name other : String}

/-- Entries without what stands under a name. -/
def without (name : String) (entries : List (Value × Value)) :
    List (Value × Value) :=
  entries.filter fun entry => !entry.1.sameKey (.text name)

theorem field?_without
    (name other : String) (entries : List (Value × Value)) :
    field? other (without name entries) =
      if other = name then none else field? other entries := by
  induction entries with
  | nil => exact (ite_self none).symm
  | cons entry rest induction =>
      rcases entry with ⟨key, value⟩
      rw [without] at induction ⊢
      by_cases isNamed : key.sameKey (.text name) = true
      · have isName := sameKey_text_iff.1 isNamed
        rw [List.filter_cons_of_neg (by simp [isNamed]), induction]
        by_cases same : other = name
        · rw [if_pos same, if_pos same]
        · have differs : key.sameKey (.text other) = false := by
            rw [isName, Bool.eq_false_iff, Ne, sameKey_text_iff,
              Value.text.injEq]
            exact Ne.symm same
          rw [if_neg same, if_neg same, field?, field?, lookup?, differs]
          rfl
      · rw [List.filter_cons_of_pos (by simp [isNamed]), field?, lookup?,
          ← field?, induction]
        by_cases isOther : key.sameKey (.text other) = true
        · have differs : other ≠ name := by
            rintro rfl
            exact isNamed isOther
          rw [if_pos isOther, if_neg differs, field?, lookup?,
            if_pos isOther]
        · rw [if_neg isOther]
          congr 1
          rw [field?, field?, lookup?, if_neg isOther]

/-- Whether a mapping is another one less a name, under which there is null. -/
def LeavesOut (name : String) (before after : Value) : Prop :=
  ∃ entries,
    before.entries = .ok entries ∧
      field? name entries = some .null ∧
      after.entries = .ok (without name entries)

namespace LeavesOut

theorem get_before (leftOut : LeavesOut name before after)
    (fallback : Value) : before.get (.text name) fallback = .ok .null := by
  obtain ⟨entries, asked, isNull, _⟩ := leftOut
  rw [get_of_entries asked rfl, ← field?, isNull]
  rfl

theorem get_after (leftOut : LeavesOut name before after)
    (fallback : Value) :
    after.get (.text name) fallback = .ok fallback := by
  obtain ⟨entries, _, _, asked⟩ := leftOut
  rw [get_of_entries asked rfl, ← field?, field?_without, if_pos rfl]
  rfl

theorem get_other (leftOut : LeavesOut name before after)
    (differs : other ≠ name) (fallback : Value) :
    after.get (.text other) fallback = before.get (.text other) fallback := by
  obtain ⟨entries, asked, _, askedAfter⟩ := leftOut
  rw [get_of_entries asked rfl, get_of_entries askedAfter rfl, ← field?,
    ← field?, field?_without, if_neg differs]

theorem getText_other (leftOut : LeavesOut name before after)
    (differs : other ≠ name) : after.getText other = before.getText other := by
  obtain ⟨entries, asked, _, askedAfter⟩ := leftOut
  rw [getText_of_entries asked, getText_of_entries askedAfter,
    field?_without, if_neg differs]

theorem holds_other (leftOut : LeavesOut name before after)
    (differs : other ≠ name) :
    after.holds (.text other) = before.holds (.text other) := by
  obtain ⟨entries, asked, _, askedAfter⟩ := leftOut
  rw [holds_of_entries asked, holds_of_entries askedAfter, ← isSome_lookup?,
    ← isSome_lookup?, ← field?, ← field?, field?_without, if_neg differs]

end LeavesOut

end Value

namespace Configuration

variable {configuration before after : Configuration} {question : Question}
  {part : Section} {name key : Value}

theorem normalize_of_null
    (isNull : configuration.platformSection = .ok .null)
    (hasKey : HasKey name key) :
    configuration.normalize name = .error .mistyped := by
  obtain ⟨stripped, strips, lowers⟩ := hasKey
  rw [normalize, strips]
  show (stripped.lowered >>= _) = _
  rw [lowers, isNull]
  rfl

/-- A question that reaches a section which is null fails. -/
theorem answer_of_null
    (isNull : configuration.sectionFor question.asked = .ok .null)
    (reaches : question.ReachesSection) :
    configuration.answer question = .error question.failureOfNull := by
  cases question with
  | platforms =>
      change configuration.platformSection = _ at isNull
      rw [answer, platformNames, isNull]
      rfl
  | isKnown name =>
      obtain ⟨key, hasKey⟩ := reaches name rfl
      rw [answer, isKnown, normalize_of_null isNull hasKey]
      rfl
  | normalize name =>
      obtain ⟨key, hasKey⟩ := reaches name rfl
      exact normalize_of_null isNull hasKey
  | provisioners =>
      change configuration.provisionerSection = _ at isNull
      rw [answer, provisionerNames, isNull]
      rfl
  | settings name =>
      change configuration.provisionerSection = _ at isNull
      rw [answer, provisionerSettings, isNull]
      rfl
  | option name fallback =>
      change sectionOf configuration.environment "options" = _ at isNull
      rw [answer, option, isNull]
      rfl

theorem normalize_of_empty
    (isEmpty : configuration.platformSection = .ok (.mapping []))
    (hasKey : HasKey name key) : configuration.normalize name = .ok key := by
  obtain ⟨stripped, strips, lowers⟩ := hasKey
  rw [normalize_of_entries isEmpty rfl strips lowers]
  rfl

theorem get_of_empty (name fallback : Value) :
    (Value.mapping []).get name fallback =
      if name.isScalar then .ok fallback else .error .mistyped :=
  rfl

/-- Of a section that is empty no question fails as of one that is null. -/
theorem answer_of_empty
    (isEmpty : configuration.sectionFor question.asked = .ok (.mapping []))
    (reaches : question.ReachesSection) :
    configuration.answer question ≠ .error question.failureOfNull := by
  cases question with
  | platforms =>
      change configuration.platformSection = _ at isEmpty
      rw [answer, platformNames, isEmpty]
      intro fails
      cases fails
  | isKnown name =>
      obtain ⟨key, hasKey⟩ := reaches name rfl
      change configuration.platformSection = _ at isEmpty
      rw [answer, isKnown, normalize_of_empty isEmpty hasKey, platformNames,
        isEmpty]
      intro fails
      cases fails
  | normalize name =>
      obtain ⟨key, hasKey⟩ := reaches name rfl
      rw [answer, normalize_of_empty isEmpty hasKey]
      intro fails
      cases fails
  | provisioners =>
      change configuration.provisionerSection = _ at isEmpty
      rw [answer, provisionerNames, isEmpty]
      intro fails
      cases fails
  | settings name =>
      change configuration.provisionerSection = _ at isEmpty
      rw [answer, provisionerSettings, isEmpty]
      show ((Value.mapping []).get name .null >>= _) ≠ _
      rw [get_of_empty]
      intro fails
      split_ifs at fails <;> cases fails
  | option name fallback =>
      change sectionOf configuration.environment "options" = _ at isEmpty
      rw [answer, option, isEmpty]
      show (Value.mapping []).get name fallback ≠ _
      rw [get_of_empty]
      intro fails
      split_ifs at fails
      cases fails

/-- Whether the search for a name goes on behind some platforms. -/
def PassesBy (key : Value) (earlier : List (Value × Value)) : Prop :=
  ∀ entry ∈ earlier,
    ∃ others, aliases entry.2 = .ok others ∧ isAlias key others = .ok false

theorem platformOfAlias_of_passesBy
    {earlier : List (Value × Value)} (passes : PassesBy key earlier)
    (later : List (Value × Value)) :
    platformOfAlias key (earlier ++ later) = platformOfAlias key later := by
  induction earlier with
  | nil => rfl
  | cons entry rest induction =>
      obtain ⟨⟨others, asked, notAlias⟩, restPasses⟩ :=
        List.forall_mem_cons.1 passes
      rcases entry with ⟨platform, settings⟩
      rw [List.cons_append, platformOfAlias, asked]
      show (isAlias key others >>= _) = _
      rw [notAlias]
      exact induction restPasses

/-- A search that ends does not come to what stands behind. -/
theorem platformOfAlias_of_not_passesBy
    {earlier : List (Value × Value)} (ends : ¬ PassesBy key earlier)
    (later others : List (Value × Value)) :
    platformOfAlias key (earlier ++ later) =
      platformOfAlias key (earlier ++ others) := by
  induction earlier with
  | nil => exact absurd (fun _ member => nomatch member) ends
  | cons entry rest induction =>
      rcases entry with ⟨platform, settings⟩
      rw [List.cons_append, List.cons_append, platformOfAlias,
        platformOfAlias]
      cases asked : aliases settings with
      | error failure => rfl
      | ok spelled =>
          show (isAlias key spelled >>= _) = (isAlias key spelled >>= _)
          cases found : isAlias key spelled with
          | error failure => rfl
          | ok isFound =>
              cases isFound with
              | true => rfl
              | false =>
                  apply induction
                  intro restPasses
                  apply ends
                  exact
                    List.forall_mem_cons.2
                      ⟨⟨spelled, asked, found⟩, restPasses⟩

/-- Aliases that are null cannot be read, and aliases that are left out are none. -/
theorem aliases_of_leavesOut {settings others : Value}
    (leftOut :
      (settings.orElse (.mapping [])).LeavesOut "aliases"
        (others.orElse (.mapping []))) :
    aliases settings = .error .mistyped ∧ aliases others = .ok [] := by
  rw [aliases, aliases, leftOut.get_before, leftOut.get_after]
  exact ⟨rfl, rfl⟩

/-- A configuration with another file in the place of the one that a section stands in. -/
def withFile (configuration : Configuration) (file : Value) :
    Section → Configuration
  | .options => { configuration with environment := file }
  | .provisioners => { configuration with environment := file }
  | .platforms => { configuration with platforms := file }

/-- Files with the same environment section make configurations with the same descriptor. -/
theorem ofValues_of_sameEnvironment
    {path : String} {environment other platforms others : Value}
    {descriptor : Descriptor}
    (holds :
      other.holds (.text "environment") =
        environment.holds (.text "environment"))
    (same : other.getText "environment" = environment.getText "environment")
    (loaded :
      ofValues path environment platforms =
        .ok ⟨environment, platforms, descriptor⟩) :
    ofValues path other others = .ok ⟨other, others, descriptor⟩ := by
  rw [ofValues] at loaded ⊢
  rw [holds]
  cases held : environment.holds (.text "environment") with
  | error failure =>
      rw [held] at loaded
      cases loaded
  | ok isThere =>
      rw [held] at loaded
      cases isThere with
      | false => cases loaded
      | true =>
          change (other.getText "environment" >>= _) = _
          change (environment.getText "environment" >>= _) = _ at loaded
          rw [same]
          cases asked : environment.getText "environment" with
          | error failure =>
              rw [asked] at loaded
              cases loaded
          | ok value =>
              rw [asked] at loaded
              simp only [bind, Except.bind] at loaded ⊢
              cases read : Descriptor.ofValue value with
              | error problems =>
                  rw [read] at loaded
                  cases loaded
              | ok found =>
                  rw [read] at loaded
                  cases loaded
                  rfl

/-- What of a configuration may be null. -/
inductive Part
  | whole (part : Section)
  /-- The aliases of the platform behind some others. -/
  | aliases (earlier : List (Value × Value))

/--
Two tables of platforms that differ in the platform behind some others only: its aliases
are null in the first table and left out in the second.
-/
inductive AliasesLeftOut (earlier : List (Value × Value))
    (platforms others : Value) : Prop
  | intro {later : List (Value × Value)}
      {identifier settings newSettings : Value}
      (asked :
        platforms.entries = .ok (earlier ++ (identifier, settings) :: later))
      (askedAfter :
        others.entries = .ok (earlier ++ (identifier, newSettings) :: later))
      (leftOut :
        (settings.orElse (.mapping [])).LeavesOut "aliases"
          (newSettings.orElse (.mapping [])))

/-- Configurations whose files differ in a part that is null in one and left out in the other. -/
inductive IsLeftOut (before : Configuration) : Part → Configuration → Prop
  | whole {part : Section} {file : Value}
      (leftOut : (before.fileOf part).LeavesOut part.name file) :
      IsLeftOut before (.whole part) (before.withFile file part)
  | aliases {earlier : List (Value × Value)} {platforms others file : Value}
      (known : before.platformSection = .ok platforms)
      (knownAfter : sectionOf file "platforms" = .ok others)
      (leftOut : AliasesLeftOut earlier platforms others) :
      IsLeftOut before (.aliases earlier) (before.withFile file .platforms)

/-- Whether a question comes to a part, before anything else can have the answer. -/
inductive IsReached (configuration : Configuration) :
    Part → Question → Prop
  | whole {question : Question} (reaches : question.ReachesSection) :
      IsReached configuration (.whole question.asked) question
  | aliases {earlier : List (Value × Value)} {question : Question}
      {name key platforms : Value}
      (looksUp : question.lookedUp? = some name)
      (hasKey : HasKey name key)
      (known : configuration.platformSection = .ok platforms)
      (notListed : platforms.holds key = .ok false)
      (passes : PassesBy key earlier) :
      IsReached configuration (.aliases earlier) question

theorem sectionFor_withFile_self (before : Configuration) (file : Value)
    (part : Section) :
    (before.withFile file part).sectionFor part = sectionOf file part.name := by
  cases part <;> rfl

theorem sectionFor_withFile_of_leavesOut {file : Value} {other : Section}
    (leftOut : (before.fileOf part).LeavesOut part.name file)
    (differs : other ≠ part) :
    (before.withFile file part).sectionFor other =
      before.sectionFor other := by
  cases part with
  | options =>
      cases other with
      | options => exact absurd rfl differs
      | provisioners => exact leftOut.get_other (by decide) _
      | platforms => rfl
  | provisioners =>
      cases other with
      | options => exact leftOut.get_other (by decide) _
      | provisioners => exact absurd rfl differs
      | platforms => rfl
  | platforms =>
      cases other with
      | options => rfl
      | provisioners => rfl
      | platforms => exact absurd rfl differs

/-- Where a section is left out, only the questions that reach it are answered otherwise. -/
theorem answer_without_section
    {file : Value} (leftOut : (before.fileOf part).LeavesOut part.name file)
    (question : Question) :
    (¬ IsReached before (.whole part) question →
        before.answer question = (before.withFile file part).answer question) ∧
      (IsReached before (.whole part) question →
        before.answer question = .error question.failureOfNull ∧
          (before.withFile file part).answer question ≠
            .error question.failureOfNull) := by
  constructor
  · intro notReached
    by_cases isAsked : question.asked = part
    · subst isAsked
      apply answer_of_not_reachesSection
      intro reaches
      exact notReached (.whole reaches)
    · exact (answer_congr (sectionFor_withFile_of_leavesOut leftOut isAsked)).symm
  · intro reached
    cases reached with
    | whole reaches =>
        constructor
        · exact answer_of_null (leftOut.get_before _) reaches
        · apply answer_of_empty ?_ reaches
          rw [sectionFor_withFile_self]
          exact leftOut.get_after _

section

variable {earlier : List (Value × Value)} {platforms others : Value}

/-- The search for a name ends with aliases that are null, if it comes to them. -/
theorem normalize_of_null_aliases
    (known : before.platformSection = .ok platforms)
    (leftOut : AliasesLeftOut earlier platforms others)
    (hasKey : HasKey name key) (notListed : platforms.holds key = .ok false)
    (passes : PassesBy key earlier) :
    before.normalize name = .error .mistyped := by
  obtain ⟨asked, _, leftOut⟩ := leftOut
  obtain ⟨stripped, strips, lowers⟩ := hasKey
  rw [Value.holds_of_entries asked, Except.ok.injEq] at notListed
  rw [normalize_of_entries known asked strips lowers, notListed,
    if_neg Bool.false_ne_true, platformOfAlias_of_passesBy passes,
    platformOfAlias, (aliases_of_leavesOut leftOut).1]
  rfl

/-- A name that does not come to the aliases is looked up alike without them. -/
theorem normalize_without_aliases
    (known : before.platformSection = .ok platforms)
    (knownAfter : after.platformSection = .ok others)
    (leftOut : AliasesLeftOut earlier platforms others)
    (hasKey : HasKey name key)
    (ends : platforms.holds key = .ok false → ¬ PassesBy key earlier) :
    before.normalize name = after.normalize name := by
  obtain ⟨asked, askedAfter, _⟩ := leftOut
  obtain ⟨stripped, strips, lowers⟩ := hasKey
  rw [normalize_of_entries known asked strips lowers,
    normalize_of_entries knownAfter askedAfter strips lowers,
    List.any_append, List.any_append, List.any_cons, List.any_cons]
  split_ifs with isListed
  · rfl
  · apply platformOfAlias_of_not_passesBy
    apply ends
    rw [Value.holds_of_entries asked, List.any_append, List.any_cons]
    exact congrArg Except.ok (Bool.eq_false_iff.2 isListed)

/-- Where aliases are left out, only the names that come to them are looked up otherwise. -/
theorem answer_without_aliases
    (known : before.platformSection = .ok platforms)
    (knownAfter : after.platformSection = .ok others)
    (leftOut : AliasesLeftOut earlier platforms others)
    (sameOptions : before.sectionFor .options = after.sectionFor .options)
    (sameProvisioners :
      before.sectionFor .provisioners = after.sectionFor .provisioners)
    (question : Question) :
    (¬ IsReached before (.aliases earlier) question →
        before.answer question = after.answer question) ∧
      (IsReached before (.aliases earlier) question →
        before.answer question = .error question.failureOfNull) := by
  have sameNames : before.platformNames = after.platformNames := by
    obtain ⟨asked, askedAfter, _⟩ := leftOut
    rw [platformNames_of_entries known asked,
      platformNames_of_entries knownAfter askedAfter, List.map_append,
      List.map_append, List.map_cons, List.map_cons]
  constructor
  · intro notReached
    cases looksUp : question.lookedUp? with
    | none =>
        cases question with
        | platforms => simp only [answer, sameNames]
        | provisioners => exact answer_congr sameProvisioners
        | settings name => exact answer_congr sameProvisioners
        | option name fallback => exact answer_congr sameOptions
        | _ => cases looksUp
    | some name =>
        by_cases hasKey : ∃ key, HasKey name key
        · obtain ⟨key, hasKey⟩ := hasKey
          apply answer_of_normalize_eq looksUp sameNames
          apply normalize_without_aliases known knownAfter leftOut hasKey
          intro notListed passes
          exact
            notReached (.aliases looksUp hasKey known notListed passes)
        · apply answer_of_not_reachesSection
          intro reaches
          exact hasKey (reaches name looksUp)
  · intro reached
    cases reached with
    | aliases looksUp hasKey reachedKnown notListed passes =>
        obtain rfl := Except.ok.inj (known.symm.trans reachedKnown)
        have fails :=
          normalize_of_null_aliases known leftOut hasKey notListed passes
        rw [answer_of_normalize_error looksUp fails]
        cases question with
        | isKnown other => rfl
        | normalize other => rfl
        | _ => cases looksUp

end

/-- Leaving out a part that is null leaves the environment section as it is. -/
theorem ofValues_of_isLeftOut {part : Part}
    (leftOut : IsLeftOut before part after) (path : String)
    (loaded :
      ofValues path before.environment before.platforms = .ok before) :
    ofValues path after.environment after.platforms = .ok after := by
  cases leftOut with
  | @whole part file leftOut =>
      cases part with
      | options =>
          exact
            ofValues_of_sameEnvironment (leftOut.holds_other (by decide))
              (leftOut.getText_other (by decide)) loaded
      | provisioners =>
          exact
            ofValues_of_sameEnvironment (leftOut.holds_other (by decide))
              (leftOut.getText_other (by decide)) loaded
      | platforms => exact ofValues_of_sameEnvironment rfl rfl loaded
  | aliases _ _ _ => exact ofValues_of_sameEnvironment rfl rfl loaded

/--
A configuration in which a part is null is read like the one in which it is left out.  A
question that comes to the part fails where it is null.  So the two answer a question alike
exactly if it does not come to the part, or, where the part is the aliases of a platform,
if it fails in the same way later.
-/
theorem answer_eq_iff_of_isLeftOut {part : Part}
    (leftOut : IsLeftOut before part after) :
    (∀ path,
        ofValues path before.environment before.platforms = .ok before →
          ofValues path after.environment after.platforms = .ok after) ∧
      ∀ question,
        (IsReached before part question →
            before.answer question = .error question.failureOfNull) ∧
          (before.answer question = after.answer question ↔
            (IsReached before part question →
              ∃ earlier,
                part = .aliases earlier ∧
                  after.answer question = .error question.failureOfNull)) := by
  refine ⟨ofValues_of_isLeftOut leftOut, fun question => ?_⟩
  cases leftOut with
  | @whole asked file leftOut =>
      obtain ⟨alike, otherwise⟩ := answer_without_section leftOut question
      refine ⟨fun reached => (otherwise reached).1, ?_⟩
      constructor
      · intro same reached
        obtain ⟨fails, differs⟩ := otherwise reached
        exact absurd (same.symm.trans fails) differs
      · intro notSections
        apply alike
        intro reached
        obtain ⟨_, isAliases, _⟩ := notSections reached
        cases isAliases
  | @aliases earlier _ others file known knownAfter leftOut =>
      have newSection :
          (before.withFile file .platforms).platformSection = .ok others :=
        knownAfter
      obtain ⟨alike, fails⟩ :=
        answer_without_aliases known newSection leftOut rfl rfl question
      refine ⟨fails, ?_⟩
      constructor
      · intro same reached
        exact ⟨_, rfl, same.symm.trans (fails reached)⟩
      · intro failsLater
        by_cases reached : IsReached before (.aliases earlier) question
        · obtain ⟨_, _, failsAfter⟩ := failsLater reached
          exact (fails reached).trans failsAfter.symm
        · exact alike reached

/-- The platforms of a table whose second platform has the given settings. -/
def platformsWith (settings : Value) : Value :=
  Shipped.object
    [("linux", .null), ("darwin", settings),
      ("windows", Shipped.object [("aliases", Shipped.texts ["win32"])])]

/-- A configuration of these platforms, with the descriptor of a project without dependencies. -/
def withDarwin (settings : Value) : Configuration where
  environment :=
    Shipped.object [("environment", Shipped.object [("name", .text "walker")])]
  platforms := Shipped.object [("platforms", platformsWith settings)]
  descriptor :=
    { name := "walker"
      base := []
      condition := ⟨[]⟩
      conditional := []
      scope := none
      named := by decide
      lawful := rfl }

/-- An alias of a later platform comes to the aliases that are null, an identifier does not. -/
theorem answer_without_null_aliases :
    let before := withDarwin (Shipped.object [("aliases", .null)])
    let after := withDarwin (.mapping [])
    let part := Part.aliases [(.text "linux", .null)]
    IsLeftOut before part after ∧
      ofValues "cfg/environment.yaml" after.environment after.platforms =
        .ok after ∧
      IsReached before part (.normalize (.text "Win32")) ∧
      before.answer (.normalize (.text "Win32")) = .error .mistyped ∧
      before.answer (.normalize (.text "Win32")) ≠
        after.answer (.normalize (.text "Win32")) ∧
      ¬ IsReached before part (.normalize (.text "Linux")) ∧
      before.answer (.normalize (.text "Linux")) =
        after.answer (.normalize (.text "Linux")) := by
  intro before after part
  let windows : Value := Shipped.object [("aliases", Shipped.texts ["win32"])]
  let nullSettings : Value := Shipped.object [("aliases", .null)]
  have known : before.platformSection = .ok (platformsWith nullSettings) := rfl
  have knownAfter :
      sectionOf after.platforms "platforms" =
        .ok (platformsWith (.mapping [])) :=
    rfl
  have asked (settings : Value) :
      (platformsWith settings).entries =
        .ok
          ([(.text "linux", .null)] ++
            (.text "darwin", settings) :: [(.text "windows", windows)]) :=
    rfl
  have leftOut : IsLeftOut before part after :=
    .aliases known knownAfter
      (.intro (asked _) (asked _) ⟨_, rfl, rfl, rfl⟩)
  have winKey : HasKey (.text "Win32") (.text "win32") :=
    .text (by decide +kernel)
  have linuxKey : HasKey (.text "Linux") (.text "linux") :=
    .text (by decide +kernel)
  have comes : IsReached before part (.normalize (.text "Win32")) := by
    refine .aliases rfl winKey known rfl ?_
    exact List.forall_mem_singleton.2 ⟨[], rfl, rfl⟩
  have isIdentifier (earlier : List (Value × Value)) :
      ¬ IsReached before (.aliases earlier) (.normalize (.text "Linux")) := by
    intro reached
    cases reached with
    | aliases looksUp hasKey reachedKnown notListed _ =>
        obtain rfl := Option.some.inj looksUp
        obtain rfl := hasKey.unique linuxKey
        obtain rfl := Except.ok.inj (known.symm.trans reachedKnown)
        cases notListed
  obtain ⟨isRead, answers⟩ := answer_eq_iff_of_isLeftOut leftOut
  obtain ⟨fails, comesIff⟩ := answers (.normalize (.text "Win32"))
  refine
    ⟨leftOut, isRead _ rfl, comes, fails comes, ?_, isIdentifier _,
      (answers (.normalize (.text "Linux"))).2.2
        fun reached => absurd reached (isIdentifier _)⟩
  intro same
  obtain ⟨_, _, failsAfter⟩ := comesIff.1 same comes
  cases failsAfter

/-- What a question comes to, with a configuration that is read from two texts. -/
def answerIn (environment platforms : String) (question : Question) :
    Except Failure Spelling := do
  let files : Files.Tree :=
    { entries :=
        [(["home"], .directory), (["home", "cfg"], .directory),
          (["home", "cfg", "environment.yaml"], .file (.text environment)),
          (["home", "cfg", "platforms.yaml"], .file (.text platforms))]
      directory := ["home"] }
  let configuration ← load files (some (.ofString "cfg"))
  return (← configuration.answer question).asText

/-- Each part that is null makes a question fail that is answered where it is left out. -/
theorem null_parts_fail :
    (let environment := "environment:\n  name: tool\n"
      let platforms := "platforms:\n  linux:\n"
      let option := Question.option (.text "work_dir") (.text "build")
      let linux := Question.normalize (.text "Linux")
      answerIn (environment ++ "options:\n") platforms option =
          .error .unsupported ∧
        answerIn environment platforms option = .ok ("build" : Spelling) ∧
        answerIn (environment ++ "provisioners:\n") platforms
            .provisioners =
          .error .unsupported ∧
        answerIn environment platforms .provisioners =
          .ok ("[]" : Spelling) ∧
        answerIn environment "platforms:\n" linux = .error .mistyped ∧
        answerIn environment "" linux = .ok ("linux" : Spelling) ∧
        answerIn environment "platforms:\n  darwin:\n    aliases:\n" linux =
          .error .mistyped ∧
        answerIn environment "platforms:\n  darwin:\n" linux =
          .ok ("linux" : Spelling)) := by
  decide +kernel

end Configuration

end NativeDeps
