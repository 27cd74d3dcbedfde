import NativeDeps.Proofs.Resolution
import NativeDeps.Proofs.Validation

/-!
# Reading descriptors

What is wrong with a value as a descriptor is said place by place: which places have to
hold something, and what each of them may hold.  Reading a value reports exactly the
places where something is wrong, in their order; where nothing is wrong, it reports the
first broken rule alone, and without one it gives the descriptor that the value writes
out.  So the result depends on nothing but the known fields.
-/

namespace NativeDeps

namespace Value

/-- The texts of the list at a place, none if nothing stands there. -/
def spellingsAt (value : Value) (place : List Step) : List Spelling :=
  ((value.at? place).map spellings).getD []

theorem spellingsAt_append (value : Value) (place rest : List Step) :
    value.spellingsAt (place ++ rest) =
      ((value.at? place).map fun found => found.spellingsAt rest).getD [] := by
  rw [spellingsAt, at?_append]
  cases value.at? place <;> rfl

/-- The texts that are read at a place are those that stand there. -/
theorem spellingsAt_of_read
    {value : Value} {place : List Step} {contents : List Spelling}
    (read :
      value.at? place = none ∧ contents = [] ∨
        ∃ found, value.at? place = some found ∧ contents = found.spellings) :
    value.spellingsAt place = contents := by
  rw [spellingsAt]
  rcases read with ⟨absent, rfl⟩ | ⟨found, there, rfl⟩
  · rw [absent]
    rfl
  · rw [there]
    rfl

end Value

namespace Descriptor

/-- The fields of a descriptor in the order in which they are declared. -/
def fieldNames : List String :=
  ["name", "base_dependencies", "platform_condition",
    "conditional_dependencies", "conditional_namespace"]

/-- The places of a descriptor that may hold lists of texts. -/
def listPlaces : List (List Step) :=
  [[.field "base_dependencies"],
    [.field "platform_condition", .field "platforms"],
    [.field "conditional_dependencies"]]

/--
The places at which an object is wrong as a descriptor, and what is wrong there.  Halves of
characters are wrong in the name alone.
-/
inductive Offends (value : Value) : Problem → Prop
  | nameMissing (absent : value.at? [.field "name"] = none) :
      Offends value ⟨.missing, [.field "name"]⟩
  | nameNoText {found : Value}
      (there : value.at? [.field "name"] = some found)
      (noText : found.spelt? = none) :
      Offends value ⟨found.textComplaint, [.field "name"]⟩
  | nameHalved {found : Value} {spelling : Spelling}
      (there : value.at? [.field "name"] = some found)
      (isText : found.spelt? = some spelling) (half : ¬ spelling.IsWhole) :
      Offends value ⟨.notUnicode, [.field "name"]⟩
  | nameEmpty {found : Value}
      (there : value.at? [.field "name"] = some found)
      (isEmpty : found.spelt? = some ("" : Spelling)) :
      Offends value ⟨.emptyText, [.field "name"]⟩
  | noList {place : List Step} {found : Value}
      (isPlace : place ∈ listPlaces) (there : value.at? place = some found)
      (noList : found.elements? = none) : Offends value ⟨.notList, place⟩
  | noText {place : List Step} {index : Nat} {found : Value}
      (isPlace : place ∈ listPlaces)
      (there : value.at? (place ++ [.element index]) = some found)
      (noText : found.spelt? = none) :
      Offends value ⟨found.textComplaint, place ++ [.element index]⟩
  | conditionNoObject {found : Value}
      (there : value.at? [.field "platform_condition"] = some found)
      (noObject : found.fields? = none) :
      Offends value ⟨.notObject .condition, [.field "platform_condition"]⟩
  | scopeNoText {found : Value}
      (there : value.at? [.field "conditional_namespace"] = some found)
      (notNull : found ≠ .null) (noText : found.spelt? = none) :
      Offends value
        ⟨found.textComplaint, [.field "conditional_namespace"]⟩

/-- What an object writes out, with fields that are left out at their defaults. -/
structure Draft where
  name : String
  base : List Spelling
  platforms : List Spelling
  conditional : List Spelling
  scope : Option Spelling
deriving Repr, DecidableEq

namespace Draft

def ofValue (value : Value) : Draft where
  name :=
    (((value.at? [.field "name"]).bind Value.spelt?).bind
      Spelling.text?).getD ""
  base := value.spellingsAt [.field "base_dependencies"]
  platforms :=
    value.spellingsAt [.field "platform_condition", .field "platforms"]
  conditional := value.spellingsAt [.field "conditional_dependencies"]
  scope := (value.at? [.field "conditional_namespace"]).bind Value.spelt?

/-- No list repeats an identifier, and the project does not depend on itself. -/
def IsLawful (draft : Draft) : Prop :=
  (draft.base.Nodup ∧ (draft.name : Spelling) ∉ draft.base) ∧
    draft.conditional.Nodup ∧ (draft.name : Spelling) ∉ draft.conditional

end Draft

/-- What a descriptor says, field by field. -/
def draft (descriptor : Descriptor) : Draft :=
  ⟨descriptor.name, descriptor.base, descriptor.condition.platforms,
    descriptor.conditional, descriptor.scope⟩

/--
What comes of reading a value: it is no object, or its report holds all places where it
offends, in order, or the first broken rule, or it gives the descriptor written out.
-/
inductive Verdict (value : Value) : Checked Descriptor → Prop
  | noObject (noFields : value.fields? = none) :
      Verdict value (.error [⟨.notObject .environment, []⟩])
  | offending {problems : List Problem}
      (isObject : value.fields?.isSome) (isSome : problems ≠ [])
      (exact : ∀ problem, problem ∈ problems ↔ Offends value problem)
      (ordered : problems.Pairwise (Problem.Before fieldNames)) :
      Verdict value (.error problems)
  | unlawful {violation : Violation}
      (isObject : value.fields?.isSome)
      (nothing : ∀ problem, ¬ Offends value problem)
      (isUnlawful : ¬ (Draft.ofValue value).IsLawful)
      (first :
        Violation.first (Draft.ofValue value).name (Draft.ofValue value).base
            (Draft.ofValue value).conditional =
          some violation) :
      Verdict value
        (.error [⟨.rule (violation.message (Draft.ofValue value).name), []⟩])
  | described {descriptor : Descriptor}
      (isObject : value.fields?.isSome)
      (nothing : ∀ problem, ¬ Offends value problem)
      (isLawful : (Draft.ofValue value).IsLawful)
      (written : descriptor.draft = Draft.ofValue value) :
      Verdict value (.ok descriptor)

open Checked Value

/-- What is wrong with a value that should be a condition. -/
def NoCondition (value : Value) (problem : Problem) : Prop :=
  value.fields? = none ∧ problem = ⟨.notObject .condition, []⟩ ∨
    WrongAt NoTexts [.field "platforms"] value problem

/-- What is wrong with a value that should be a namespace or null. -/
def NoScope (value : Value) (problem : Problem) : Prop :=
  value ≠ .null ∧ value.NoText problem

/-- What is wrong with the name of a value. -/
def NameWrong (value : Value) (problem : Problem) : Prop :=
  value.at? [.field "name"] = none ∧
      problem = ⟨.missing, [.field "name"]⟩ ∨
    WrongAt NoFullText [.field "name"] value problem

/-- What is wrong in one of the fields. -/
def FieldWrong (value : Value) (problem : Problem) : Prop :=
  NameWrong value problem ∨
    WrongAt NoTexts [.field "base_dependencies"] value problem ∨
      WrongAt NoCondition [.field "platform_condition"] value problem ∨
        WrongAt NoTexts [.field "conditional_dependencies"] value problem ∨
          WrongAt NoScope [.field "conditional_namespace"] value problem

/-- A value offends where it should hold lists of texts. -/
theorem offends_of_noTexts
    {value : Value} {problem : Problem} {place : List Step}
    (isPlace : place ∈ listPlaces)
    (isWrong : WrongAt NoTexts place value problem) :
    Offends value problem := by
  rcases isWrong with
    ⟨found, inner, there, ⟨noList, rfl⟩ | ⟨index, isWrong⟩, rfl⟩
  · have offends := Offends.noList isPlace there noList
    rwa [← List.append_nil place] at offends
  · have deeper :
        WrongAt NoText (place ++ [.element index]) value
          (inner.within place) :=
      (wrongAt_wrongAt_iff _ _ _ _).1 ⟨found, inner, there, isWrong, rfl⟩
    obtain ⟨element, _, stands, ⟨noText, rfl⟩, same⟩ := deeper
    rw [same, Problem.within, List.append_nil]
    exact .noText isPlace stands noText

theorem noTexts_of_offends
    {value found : Value} {place : List Step} {index : Nat}
    (there : value.at? (place ++ [.element index]) = some found)
    (noText : found.spelt? = none) :
    WrongAt NoTexts place value
      ⟨found.textComplaint, place ++ [.element index]⟩ := by
  have deeper :
      WrongAt (WrongAt NoText [.element index]) place value
        ⟨found.textComplaint, place ++ [.element index]⟩ := by
    refine
      (wrongAt_wrongAt_iff _ _ _ _).2
        ⟨found, ⟨found.textComplaint, []⟩, there, ⟨noText, rfl⟩, ?_⟩
    rw [Problem.within, List.append_nil]
  obtain ⟨list, inner, stands, isWrong, same⟩ := deeper
  exact ⟨list, inner, stands, .inr ⟨index, isWrong⟩, same⟩

/-- The platforms of a condition stand one step below the condition. -/
theorem wrongAt_platforms_iff (value : Value) (problem : Problem) :
    WrongAt NoTexts [.field "platform_condition", .field "platforms"] value
        problem ↔
      WrongAt (WrongAt NoTexts [.field "platforms"])
        [.field "platform_condition"] value problem :=
  (wrongAt_wrongAt_iff [.field "platform_condition"] _ _ _).symm

theorem offends_of_fieldWrong
    {value : Value} {problem : Problem}
    (isWrong : FieldWrong value problem) : Offends value problem := by
  rcases isWrong with name | base | condition | conditional | scope
  · rcases name with
      ⟨absent, rfl⟩ |
        ⟨found, _, there,
          ⟨noText, rfl⟩ | ⟨spelling, isText, half, rfl⟩ | ⟨isEmpty, rfl⟩,
          rfl⟩
    · exact .nameMissing absent
    · exact .nameNoText there noText
    · exact .nameHalved there isText half
    · exact .nameEmpty there isEmpty
  · exact offends_of_noTexts (by simp [listPlaces]) base
  · rcases condition with
      ⟨found, _, there, ⟨noObject, rfl⟩ | isWrong, rfl⟩
    · exact .conditionNoObject there noObject
    · exact
        offends_of_noTexts (by simp [listPlaces])
          ((wrongAt_platforms_iff _ _).2 ⟨found, _, there, isWrong, rfl⟩)
  · exact offends_of_noTexts (by simp [listPlaces]) conditional
  · obtain ⟨found, _, there, ⟨notNull, noText, rfl⟩, rfl⟩ := scope
    exact .scopeNoText there notNull noText

/-- What is wrong in a list of texts is wrong in the field that holds the list. -/
theorem fieldWrong_of_noTexts
    {value : Value} {problem : Problem} {place : List Step}
    (isPlace : place ∈ listPlaces)
    (isWrong : WrongAt NoTexts place value problem) :
    FieldWrong value problem := by
  simp only [listPlaces, List.mem_cons, List.not_mem_nil, or_false] at isPlace
  rcases isPlace with rfl | rfl | rfl
  · exact .inr (.inl isWrong)
  · obtain ⟨found, inner, there, deeper, same⟩ :=
      (wrongAt_platforms_iff _ _).1 isWrong
    exact .inr (.inr (.inl ⟨found, inner, there, .inr deeper, same⟩))
  · exact .inr (.inr (.inr (.inl isWrong)))

theorem fieldWrong_of_offends
    {value : Value} {problem : Problem}
    (offends : Offends value problem) : FieldWrong value problem := by
  cases offends with
  | nameMissing absent => exact .inl (.inl ⟨absent, rfl⟩)
  | nameNoText there noText =>
      exact .inl (.inr ⟨_, _, there, .inl ⟨noText, rfl⟩, rfl⟩)
  | nameHalved there isText half =>
      exact
        .inl (.inr ⟨_, _, there, .inr (.inl ⟨_, isText, half, rfl⟩), rfl⟩)
  | nameEmpty there isEmpty =>
      exact .inl (.inr ⟨_, _, there, .inr (.inr ⟨isEmpty, rfl⟩), rfl⟩)
  | noList isPlace there noList =>
      refine
        fieldWrong_of_noTexts isPlace ⟨_, _, there, .inl ⟨noList, rfl⟩, ?_⟩
      rw [Problem.within, List.append_nil]
  | noText isPlace there noText =>
      exact fieldWrong_of_noTexts isPlace (noTexts_of_offends there noText)
  | conditionNoObject there noObject =>
      exact .inr (.inr (.inl ⟨_, _, there, .inl ⟨noObject, rfl⟩, rfl⟩))
  | scopeNoText there notNull noText =>
      exact
        .inr (.inr (.inr (.inr ⟨_, _, there, ⟨notNull, noText, rfl⟩, rfl⟩)))

/-- What is wrong in the fields are the places where the value offends. -/
theorem fieldWrong_iff (value : Value) (problem : Problem) :
    FieldWrong value problem ↔ Offends value problem :=
  ⟨offends_of_fieldWrong, fieldWrong_of_offends⟩

theorem finds_condition (value : Value) :
    Finds fieldNames (NoCondition value)
      (fun condition =>
        condition.platforms = value.spellingsAt [.field "platforms"])
      (PlatformCondition.ofValue value) := by
  rw [PlatformCondition.ofValue, toObject_eq]
  cases isObject : value.fields? with
  | none =>
      refine .single fun problem => ?_
      simp [NoCondition, WrongAt, at?_singleton, inside?, isObject]
  | some entries =>
      have finds :=
        finds_optional (finds_toTexts fieldNames) isObject
          "platforms" []
      refine
        (finds.map PlatformCondition.mk fun platforms read =>
          (spellingsAt_of_read read).symm).congr
          (fun problem => ?_) fun _ meant => meant
      rw [NoCondition, isObject]
      simp

theorem head?_of_nameWrong {value : Value} {problem : Problem}
    (isWrong : NameWrong value problem) :
    problem.location.head? = some (.field "name") := by
  rcases isWrong with ⟨_, rfl⟩ | isWrong
  · rfl
  · exact head?_of_wrongAt isWrong

/-- The platforms that are read are those that stand in the condition. -/
theorem spellingsAt_platforms
    {value : Value} {condition : PlatformCondition}
    (read :
      value.at? [.field "platform_condition"] = none ∧ condition = ⟨[]⟩ ∨
        ∃ found,
          value.at? [.field "platform_condition"] = some found ∧
            condition.platforms = found.spellingsAt [.field "platforms"]) :
    value.spellingsAt [.field "platform_condition", .field "platforms"] =
      condition.platforms := by
  refine
    (value.spellingsAt_append [.field "platform_condition"] _).trans ?_
  rcases read with ⟨absent, rfl⟩ | ⟨found, there, isRead⟩
  · rw [absent]
    rfl
  · rw [there]
    exact isRead.symm

/-- The namespace that is read is the one that stands there. -/
theorem spelt?_of_scope_read
    {value : Value} {scope : Option Spelling}
    (read :
      value.at? [.field "conditional_namespace"] = none ∧ scope = none ∨
        ∃ found,
          value.at? [.field "conditional_namespace"] = some found ∧
            scope = found.spelt?) :
    (value.at? [.field "conditional_namespace"]).bind Value.spelt? =
      scope := by
  rcases read with ⟨absent, rfl⟩ | ⟨found, there, rfl⟩
  · rw [absent]
    rfl
  · rw [there]
    rfl

/-- The readers of the fields, one after the other, find what is wrong in the fields. -/
theorem finds_fields {value : Value} {entries : List (Value × Value)}
    (isObject : value.fields? = some entries) :
    Finds fieldNames (FieldWrong value)
      (fun fields =>
        ⟨fields.1.1, fields.2.1, fields.2.2.1.platforms, fields.2.2.2.1,
          fields.2.2.2.2⟩ = Draft.ofValue value)
      ((Value.required "name" Value.toFullText entries).both
        ((Value.optional "base_dependencies" [] Value.toTexts entries).both
          ((Value.optional "platform_condition" ⟨[]⟩
              PlatformCondition.ofValue entries).both
            ((Value.optional "conditional_dependencies" []
                Value.toTexts entries).both
              (Value.optional "conditional_namespace" none
                Value.toTextOrNull entries))))) := by
  have name :=
    finds_required (finds_toFullText fieldNames) isObject "name"
  have base :=
    finds_optional (finds_toTexts fieldNames) isObject
      "base_dependencies" []
  have condition :=
    finds_optional finds_condition isObject "platform_condition" ⟨[]⟩
  have conditional :=
    finds_optional (finds_toTexts fieldNames) isObject
      "conditional_dependencies" []
  have scope :=
    finds_optional (finds_toTextOrNull fieldNames) isObject
      "conditional_namespace" none
  have fromConditional := conditional.both scope fun first second own other =>
    Problem.before_of_rank_lt (by decide) (head?_of_wrongAt own)
      (head?_of_wrongAt other)
  have fromCondition := condition.both fromConditional ?afterCondition
  case afterCondition =>
    rintro first second own (other | other) <;>
      exact
        Problem.before_of_rank_lt (by decide) (head?_of_wrongAt own)
          (head?_of_wrongAt other)
  have fromBase := base.both fromCondition ?afterBase
  case afterBase =>
    rintro first second own (other | other | other) <;>
      exact
        Problem.before_of_rank_lt (by decide) (head?_of_wrongAt own)
          (head?_of_wrongAt other)
  have fromName := name.both fromBase ?afterName
  case afterName =>
    rintro first second own (other | other | other | other) <;>
      exact
        Problem.before_of_rank_lt (by decide) (head?_of_nameWrong own)
          (head?_of_wrongAt other)
  refine fromName.congr (fun problem => Iff.rfl) ?_
  rintro ⟨⟨name, named⟩, base, condition, conditional, scope⟩
    ⟨⟨found, there, isText⟩, baseRead, conditionRead, conditionalRead,
      scopeRead⟩
  have platforms := spellingsAt_platforms conditionRead
  have scopeSpelt := spelt?_of_scope_read scopeRead
  rw [Draft.ofValue, there, platforms, scopeSpelt, spellingsAt_of_read baseRead,
    spellingsAt_of_read conditionalRead, Option.bind_some, isText,
    Option.bind_some, Spelling.text?_ofText]
  rfl

/-- Fields without a problem make a descriptor, unless they break a rule. -/
theorem verdict_assemble
    {value : Value} {name : String} {base : List Spelling}
    {condition : PlatformCondition} {conditional : List Spelling}
    {scope : Option Spelling} (named : name ≠ "")
    (isObject : value.fields?.isSome)
    (nothing : ∀ problem, ¬ Offends value problem)
    (written :
      ⟨name, base, condition.platforms, conditional, scope⟩ =
        Draft.ofValue value) :
    Verdict value (assemble name base condition conditional scope named) := by
  have ruled := Violation.first_eq_none_iff name base conditional
  have isLawful_iff :
      (Draft.ofValue value).IsLawful ↔
        Violation.first name base conditional = none := by
    rw [ruled, ← written]
    rfl
  rw [assemble]
  split
  · rename_i violation broken
    have isUnlawful : ¬ (Draft.ofValue value).IsLawful := by
      rw [isLawful_iff, broken]
      exact nofun
    have breaks :
        Violation.first (Draft.ofValue value).name (Draft.ofValue value).base
            (Draft.ofValue value).conditional =
          some violation := by
      rw [← written]
      exact broken
    have verdict := Verdict.unlawful isObject nothing isUnlawful breaks
    rw [← written] at verdict
    exact verdict
  · rename_i lawful
    exact .described isObject nothing (isLawful_iff.2 lawful) written

theorem verdict_ofValue (value : Value) : Verdict value (ofValue value) := by
  rw [ofValue, toObject_eq]
  cases isObject : value.fields? with
  | none => exact .noObject isObject
  | some entries =>
      have isSome : value.fields?.isSome := by
        rw [isObject]
        rfl
      have finds := finds_fields isObject
      dsimp only
      rw [ofEntries]
      cases found :
          (Value.required "name" Value.toFullText entries).both _ with
      | error problems =>
          rw [found] at finds
          cases finds with
          | problems someProblem exact ordered =>
              exact
                .offending isSome someProblem
                  (fun problem =>
                    (exact problem).trans (fieldWrong_iff value problem))
                  ordered
      | ok fields =>
          rw [found] at finds
          cases finds with
          | value meant nothing =>
              exact
                verdict_assemble _ isSome
                  (fun problem =>
                    (fieldWrong_iff value problem).not.1 (nothing problem))
                  meant

end Descriptor

end NativeDeps
