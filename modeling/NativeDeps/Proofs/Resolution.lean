import Mathlib.Data.List.Basic
import Mathlib.Data.List.Nodup
import NativeDeps.Descriptor.Resolution
import NativeDeps.Proofs.Value

/-!
# The closed form of resolution

Resolution goes once through the base dependencies and the conditional ones and keeps
the identifiers that it has passed.  What has been passed matters only as a set, so a
list in front of another one can be resolved by itself, and a list without repeated
identifiers only loses those that were passed before it.

Validation guarantees that neither list of a descriptor repeats an identifier.  Hence
the dependencies of a host are the base dependencies, followed by the new conditional
ones where the condition holds.
-/

namespace NativeDeps

namespace Violation

/-- A list breaks no rule if it repeats no identifier, passed ones included, nor the name. -/
theorem firstIn_eq_none_iff
    (name : String) (field : DependencyField) (seen identifiers : List Spelling) :
    firstIn name field seen identifiers = none ↔
      (identifiers.Nodup ∧ (name : Spelling) ∉ identifiers) ∧
        ∀ identifier ∈ identifiers, identifier ∉ seen := by
  induction identifiers generalizing seen with
  | nil => simp [firstIn]
  | cons identifier rest induction =>
      rw [firstIn, List.nodup_cons, List.forall_mem_cons, List.mem_cons,
        not_or]
      split_ifs with passed ownName
      · exact iff_of_false nofun fun lawful => lawful.2.1 passed
      · exact iff_of_false nofun fun lawful => lawful.1.2.1 ownName.symm
      · rw [induction]
        simp only [List.mem_cons, not_or]
        constructor
        · rintro ⟨⟨distinct, fresh⟩, unseen⟩
          have notRepeated : identifier ∉ rest := by
            intro member
            exact (unseen identifier member).1 rfl
          exact
            ⟨⟨⟨notRepeated, distinct⟩, Ne.symm ownName, fresh⟩, passed,
              fun other member => (unseen other member).2⟩
        · rintro ⟨⟨⟨notRepeated, distinct⟩, _, fresh⟩, _, unseen⟩
          refine ⟨⟨distinct, fresh⟩, fun other member => ⟨?_, unseen other member⟩⟩
          rintro rfl
          exact notRepeated member

/-- Both lists break no rule if neither repeats an identifier or names the project. -/
theorem first_eq_none_iff (name : String) (base conditional : List Spelling) :
    first name base conditional = none ↔
      (base.Nodup ∧ (name : Spelling) ∉ base) ∧
        conditional.Nodup ∧ (name : Spelling) ∉ conditional := by
  have baseLawful := firstIn_eq_none_iff name .base [] base
  have conditionalLawful :=
    firstIn_eq_none_iff name .conditional [] conditional
  simp only [List.not_mem_nil, not_false_eq_true, implies_true,
    and_true] at baseLawful conditionalLawful
  rw [← baseLawful, ← conditionalLawful, first]
  cases firstIn name .base [] base <;> simp

end Violation

namespace Resolution

theorem firsts_congr
    {seen others : List Spelling} (dependencies : List Dependency)
    (same : ∀ identifier, identifier ∈ seen ↔ identifier ∈ others) :
    firsts seen dependencies = firsts others dependencies := by
  induction dependencies generalizing seen others with
  | nil => rfl
  | cons dependency rest induction =>
      have sameAfter :
          ∀ identifier,
            identifier ∈ dependency.identifier :: seen ↔
              identifier ∈ dependency.identifier :: others := by
        intro identifier
        simp [same identifier]
      simp only [firsts, same dependency.identifier]
      rw [induction same, induction sameAfter]

/-- Dependencies after others are resolved with the identifiers of these passed. -/
theorem firsts_append
    (seen : List Spelling) (left right : List Dependency) :
    firsts seen (left ++ right) =
      firsts seen left ++
        firsts (left.map Dependency.identifier ++ seen) right := by
  induction left generalizing seen with
  | nil => rfl
  | cons dependency rest induction =>
      by_cases passed : dependency.identifier ∈ seen
      · have sameSet :
            ∀ identifier,
              identifier ∈ rest.map Dependency.identifier ++ seen ↔
                identifier ∈
                  (dependency :: rest).map Dependency.identifier ++ seen := by
          intro identifier
          simp only [List.map_cons, List.cons_append, List.mem_cons]
          constructor
          · exact Or.inr
          · rintro (rfl | member)
            · exact List.mem_append_right _ passed
            · exact member
        simp only [List.cons_append, firsts, if_pos passed, induction]
        rw [firsts_congr right sameSet, List.map_cons, List.cons_append]
      · have sameSet :
            ∀ identifier,
              identifier ∈
                  rest.map Dependency.identifier ++
                    dependency.identifier :: seen ↔
                identifier ∈
                  (dependency :: rest).map Dependency.identifier ++ seen := by
          intro identifier
          simp only [List.map_cons, List.cons_append, List.mem_append,
            List.mem_cons]
          tauto
        simp only [List.cons_append, firsts, if_neg passed, induction]
        rw [firsts_congr right sameSet, List.map_cons, List.cons_append]

/-- Without repeated identifiers only those that have been passed are dropped. -/
theorem firsts_of_nodup
    (seen : List Spelling) (dependencies : List Dependency)
    (distinct : (dependencies.map Dependency.identifier).Nodup) :
    firsts seen dependencies =
      dependencies.filter fun dependency => dependency.identifier ∉ seen := by
  induction dependencies generalizing seen with
  | nil => rfl
  | cons dependency rest induction =>
      rw [List.map_cons, List.nodup_cons] at distinct
      rcases distinct with ⟨notRepeated, restDistinct⟩
      by_cases passed : dependency.identifier ∈ seen
      · simp [firsts, passed, induction seen restDistinct]
      · have sameFilter :
            (rest.filter fun other =>
                other.identifier ∉ dependency.identifier :: seen) =
              rest.filter fun other => other.identifier ∉ seen := by
          apply List.filter_congr
          intro other member
          have differs : other.identifier ≠ dependency.identifier := by
            intro same
            exact notRepeated (same ▸ List.mem_map_of_mem member)
          simp [differs]
        rw [firsts, if_neg passed, induction _ restDistinct, sameFilter]
        simp [passed]

theorem nodup_firsts
    (seen : List Spelling) (dependencies : List Dependency) :
    ((firsts seen dependencies).map Dependency.identifier).Nodup ∧
      ∀ dependency ∈ firsts seen dependencies,
        dependency.identifier ∉ seen := by
  induction dependencies generalizing seen with
  | nil => simp [firsts]
  | cons dependency rest induction =>
      by_cases passed : dependency.identifier ∈ seen
      · simpa [firsts, passed] using induction seen
      · obtain ⟨distinct, fresh⟩ := induction (dependency.identifier :: seen)
        rw [firsts, if_neg passed]
        constructor
        · rw [List.map_cons, List.nodup_cons]
          refine ⟨?_, distinct⟩
          intro member
          rcases List.mem_map.1 member with ⟨other, otherMember, same⟩
          exact fresh other otherMember (same ▸ List.mem_cons_self)
        · rintro other (_ | ⟨_, member⟩)
          · exact passed
          · intro otherPassed
            exact fresh other member (List.mem_cons_of_mem _ otherPassed)

end Resolution

namespace PlatformCondition

/-- On a host whose name is a text or null both ways to ask agree. -/
theorem holdsOn_ofSpellingOrNull
    (condition : PlatformCondition) (host : Option Spelling) :
    condition.holdsOn (.ofSpellingOrNull host) =
      .ok (condition.holds host) := by
  cases host with
  | none => rfl
  | some host =>
      show condition.holdsOn (.ofSpelling host) = _
      rw [holdsOn, Value.isGiven_ofSpelling, Value.stripped_ofSpelling]
      show (if (host != "") = true then
        (Value.ofSpelling host.strip).lowered >>= _ else _) = _
      rw [Value.lowered_ofSpelling, holds]
      cases host != "" with
      | false => rfl
      | true =>
          show Except.ok (condition.platforms.any _) = _
          simp only [Value.sameKey_ofSpelling, Bool.true_and]
          rfl

end PlatformCondition

namespace Descriptor

theorem resolveOn_ofSpellingOrNull
    (descriptor : Descriptor) (host : Option Spelling) :
    descriptor.resolveOn (.ofSpellingOrNull host) =
      .ok (descriptor.resolve host) := by
  rw [resolveOn, descriptor.condition.holdsOn_ofSpellingOrNull,
    Value.toTextOrNull_ofSpellingOrNull]
  rfl

/-- Validation leaves no repeated identifier in either list. -/
theorem nodup_base_conditional (descriptor : Descriptor) :
    descriptor.base.Nodup ∧ descriptor.conditional.Nodup := by
  obtain ⟨⟨baseNodup, _⟩, conditionalNodup, _⟩ :=
    (Violation.first_eq_none_iff _ _ _).1 descriptor.lawful
  exact ⟨baseNodup, conditionalNodup⟩

@[simp]
theorem map_identifier_baseDependencies (descriptor : Descriptor) :
    descriptor.baseDependencies.map Dependency.identifier =
      descriptor.base := by
  simp [baseDependencies, Function.comp_def]

@[simp]
theorem map_identifier_conditionalDependencies (descriptor : Descriptor) :
    descriptor.conditionalDependencies.map Dependency.identifier =
      descriptor.conditional := by
  simp [conditionalDependencies, Function.comp_def]

/-- The conditional identifiers that are no base identifiers. -/
def newConditional (descriptor : Descriptor) : List Spelling :=
  descriptor.conditional.filter fun identifier =>
    identifier ∉ descriptor.base

/-- The dependencies of a descriptor in closed form. -/
theorem dependencies_eq (descriptor : Descriptor) (holds : Bool) :
    descriptor.dependencies holds =
      descriptor.base.map (fun identifier => ⟨identifier, none⟩) ++
        if holds then
          descriptor.newConditional.map fun identifier =>
            ⟨identifier, descriptor.scope⟩
        else
          [] := by
  rcases descriptor.nodup_base_conditional with ⟨baseNodup, conditionalNodup⟩
  have baseFirsts :
      Resolution.firsts [] descriptor.baseDependencies =
        descriptor.baseDependencies := by
    rw [Resolution.firsts_of_nodup _ _ (by simpa using baseNodup)]
    simp
  have conditionalFirsts :
      Resolution.firsts descriptor.base descriptor.conditionalDependencies =
        descriptor.newConditional.map fun identifier =>
          ⟨identifier, descriptor.scope⟩ := by
    rw [Resolution.firsts_of_nodup _ _ (by simpa using conditionalNodup),
      conditionalDependencies, newConditional, List.filter_map]
    rfl
  rw [dependencies, Resolution.firsts_append, baseFirsts,
    map_identifier_baseDependencies, List.append_nil]
  cases holds with
  | false => rfl
  | true => rw [if_pos rfl, conditionalFirsts]; rfl

/-- The identifiers of a resolved set are those of both lists that apply. -/
theorem contains_resolve_iff
    (descriptor : Descriptor) (host : Option Spelling) (identifier : Spelling) :
    (descriptor.resolve host).contains identifier = true ↔
      identifier ∈ descriptor.base ∨
        descriptor.condition.holds host = true ∧
          identifier ∈ descriptor.conditional := by
  simp only [DependencySet.contains, DependencySet.identifiers, resolve,
    dependencies_eq, List.contains_iff_mem]
  cases descriptor.condition.holds host with
  | false => simp
  | true =>
      simp only [newConditional, if_true, List.map_append, List.map_map,
        Function.comp_def, List.map_id', List.mem_append, List.mem_filter,
        decide_eq_true_eq, true_and]
      tauto

theorem nodup_identifiers_resolve
    (descriptor : Descriptor) (host : Option Spelling) :
    (descriptor.resolve host).identifiers.Nodup :=
  (Resolution.nodup_firsts [] _).1

/--
Resolution on any host in closed form: the base dependencies without a namespace, then
the new conditional ones in their namespace if and only if the condition holds.  So no
identifier occurs twice, the base list comes first, an identifier is resolved exactly
if a list that applies names it, and two hosts differ at most by the conditional part.
-/
theorem resolveOn_closed_form
    (descriptor : Descriptor) (host otherHost : Option Spelling) :
    descriptor.resolveOn (.ofSpellingOrNull host) =
        .ok (descriptor.resolve host) ∧
      (descriptor.resolve host).dependencies =
        descriptor.base.map (fun identifier => ⟨identifier, none⟩) ++
          (if descriptor.condition.holds host then
            (descriptor.conditional.filter fun identifier =>
              identifier ∉ descriptor.base).map fun identifier =>
                ⟨identifier, descriptor.scope⟩
          else
            []) ∧
      (descriptor.resolve host).identifiers.Nodup ∧
      descriptor.base.map (fun identifier => ⟨identifier, none⟩) <+:
        (descriptor.resolve host).dependencies ∧
      (∀ identifier,
        (descriptor.resolve host).contains identifier = true ↔
          identifier ∈ descriptor.base ∨
            descriptor.condition.holds host = true ∧
              identifier ∈ descriptor.conditional) ∧
      ((descriptor.resolve host).dependencies =
          (descriptor.resolve otherHost).dependencies ∨
        (descriptor.resolve host).dependencies =
          descriptor.base.map (fun identifier => ⟨identifier, none⟩) ∨
        (descriptor.resolve otherHost).dependencies =
          descriptor.base.map (fun identifier => ⟨identifier, none⟩)) := by
  refine
    ⟨descriptor.resolveOn_ofSpellingOrNull host, descriptor.dependencies_eq _,
      descriptor.nodup_identifiers_resolve host, ?_,
      descriptor.contains_resolve_iff host, ?_⟩
  · rw [resolve, dependencies_eq]
    exact List.prefix_append _ _
  · simp only [resolve, dependencies_eq]
    cases descriptor.condition.holds host <;>
      cases descriptor.condition.holds otherHost <;> simp

end Descriptor

end NativeDeps
