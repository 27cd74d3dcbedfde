import NativeDeps.Proofs.LetterCase

/-!
# Blank hosts

The blanks around the name of a host are removed before it is compared, but whether the
host has a name at all is asked before that.  So a name of nothing but blanks counts as a
name, and is then compared as the empty one.

Only a condition that lists the empty name can tell: it holds on a host with a blank name,
and on no host with an empty one.  Under any other condition blanks do not matter, and a
host with a blank name gets the base dependencies.
-/

namespace NativeDeps

namespace PlatformCondition

variable {condition : PlatformCondition} {host : Spelling}

theorem hostKey_strip (host : Spelling) :
    hostKey host.strip = hostKey host := by
  simp [hostKey]

/-- A name of blanks is compared as the empty name. -/
theorem hostKey_of_isBlank (blank : host.IsBlank) : hostKey host = "" := by
  rw [hostKey, (Spelling.strip_eq_nil_iff host).2 blank]
  rfl

/-- Only the empty name is the empty name in lower case. -/
theorem holds_iff_of_isBlank (blank : host.IsBlank) :
    condition.holds (some host) = true ↔
      host ≠ "" ∧ ("" : Spelling) ∈ condition.platforms := by
  rw [holds_iff, hostKey_of_isBlank blank]
  apply and_congr_right
  intro _
  constructor
  · rintro ⟨platform, listed, same⟩
    rwa [Spelling.lower_eq_nil_iff.1 same.symm] at listed
  · intro listed
    exact ⟨"", listed, rfl⟩

/-- On a host with more than blanks in its name the blanks around it do not matter. -/
theorem holds_strip_of_not_isBlank (notBlank : ¬ host.IsBlank) :
    condition.holds (some host.strip) = condition.holds (some host) := by
  have isStripped : host.strip ≠ "" := by
    intro isEmpty
    exact notBlank ((Spelling.strip_eq_nil_iff host).1 isEmpty)
  have isNamed : host ≠ "" := by
    rintro rfl
    exact isStripped rfl
  rw [Bool.eq_iff_iff, holds_iff, holds_iff, hostKey_strip]
  exact and_congr_left' (iff_of_true isStripped isNamed)

/-- Removing the blanks around the name of a host changes the answer in one case only. -/
theorem holds_strip_iff (condition : PlatformCondition) (host : Spelling) :
    condition.holds (some host.strip) = condition.holds (some host) ↔
      ¬ (host.IsBlank ∧ host ≠ "" ∧
        ("" : Spelling) ∈ condition.platforms) := by
  by_cases blank : host.IsBlank
  · have isUnnamed : condition.holds (some host.strip) = false := by
      rw [(Spelling.strip_eq_nil_iff host).2 blank]
      rfl
    rw [isUnnamed, eq_comm, ← Bool.not_eq_true, holds_iff_of_isBlank blank,
      and_iff_right blank]
  · apply iff_of_true (holds_strip_of_not_isBlank blank)
    intro excepted
    exact blank excepted.1

end PlatformCondition

namespace Descriptor

/-- The base dependencies alone, as the set of a host. -/
def baseSet (descriptor : Descriptor) (host : Option Spelling) :
    DependencySet where
  name := descriptor.name
  host := host
  dependencies := descriptor.base.map fun identifier => ⟨identifier, none⟩

theorem resolve_eq_baseSet_iff
    (descriptor : Descriptor) (host : Option Spelling) :
    descriptor.resolve host = descriptor.baseSet host ↔
      ¬ (descriptor.condition.holds host = true ∧
        descriptor.newConditional ≠ []) := by
  rw [resolve, baseSet, DependencySet.mk.injEq, dependencies_eq]
  cases descriptor.condition.holds host <;> simp

theorem newConditional_ne_nil_iff (descriptor : Descriptor) :
    descriptor.newConditional ≠ [] ↔
      ∃ identifier ∈ descriptor.conditional, identifier ∉ descriptor.base := by
  simp [newConditional]

/-- A host gets more than the base dependencies if the condition adds new ones on it. -/
theorem resolveOn_eq_baseSet_iff
    (descriptor : Descriptor) (host : Option Spelling) :
    descriptor.resolveOn (.ofSpellingOrNull host) =
        .ok (descriptor.baseSet host) ↔
      ¬ (descriptor.condition.holds host = true ∧
        ∃ identifier ∈ descriptor.conditional,
          identifier ∉ descriptor.base) := by
  rw [resolveOn_ofSpellingOrNull, Except.ok.injEq, resolve_eq_baseSet_iff,
    newConditional_ne_nil_iff]

/--
The blanks around the name of a host do not matter to the condition of a descriptor, unless
the name is blank without being empty and the condition lists the empty name.  A host
without a name, or with the empty one, gets the base dependencies.  So does one with a blank
name, unless the condition lists the empty name and has dependencies to add.
-/
theorem blank_host_gets_base_iff (descriptor : Descriptor) :
    (∀ host : Spelling,
      descriptor.condition.holds (some host.strip) =
          descriptor.condition.holds (some host) ↔
        ¬ (host.IsBlank ∧ host ≠ "" ∧
          ("" : Spelling) ∈ descriptor.condition.platforms)) ∧
      descriptor.resolveOn .null = .ok (descriptor.baseSet none) ∧
      descriptor.resolveOn (.text "") =
        .ok (descriptor.baseSet (some ("" : Spelling))) ∧
      ∀ host : Spelling,
        host.IsBlank →
          host ≠ "" →
            (descriptor.resolveOn (.ofSpelling host) =
                .ok (descriptor.baseSet (some host)) ↔
              ¬ (("" : Spelling) ∈ descriptor.condition.platforms ∧
                ∃ identifier ∈ descriptor.conditional,
                  identifier ∉ descriptor.base)) := by
  refine ⟨descriptor.condition.holds_strip_iff, ?_, ?_, ?_⟩
  · apply (descriptor.resolveOn_eq_baseSet_iff none).2
    simp [PlatformCondition.holds]
  · apply (descriptor.resolveOn_eq_baseSet_iff (some ("" : Spelling))).2
    simp [PlatformCondition.holds]
  · intro host blank isGiven
    apply (descriptor.resolveOn_eq_baseSet_iff (some host)).trans
    rw [PlatformCondition.holds_iff_of_isBlank blank, and_iff_right isGiven]

/-- A project that needs sockets on some platforms. -/
def beacon (platforms : List Spelling) : Descriptor where
  name := "beacon"
  base := ["zlib"]
  condition := ⟨platforms⟩
  conditional := ["socket"]
  scope := none
  named := by decide
  lawful := by decide

/-- A blank name, here of an em space and a line end, selects nothing on real platforms. -/
theorem blank_host_gets_base_of_beacon :
    let host : Spelling := "\u2003\n"
    let project := beacon ["solaris", "illumos"]
    host.IsBlank ∧
      project.resolveOn (.ofSpelling host) =
        .ok (project.baseSet (some host)) := by
  intro host project
  have blank : host.IsBlank := by decide
  have getsBase :=
    project.blank_host_gets_base_iff.2.2.2 host blank (by decide)
  exact ⟨blank, getsBase.2 (by decide)⟩

/--
Validation accepts a condition that lists the empty name.  It holds on a host whose name is
two spaces, but not when these are removed, and so the host gets the conditional dependency.
-/
theorem blank_host_gets_conditional :
    let host : Spelling := "  "
    Descriptor.ofValue (beacon [""]).toValue = .ok (beacon [""]) ∧
      host.IsBlank ∧
      (beacon [""]).condition.holds (some host) = true ∧
      (beacon [""]).condition.holds (some host.strip) = false ∧
      (beacon [""]).resolveOn (.ofSpelling host) =
        .ok ⟨"beacon", some host, [⟨"zlib", none⟩, ⟨"socket", none⟩]⟩ := by
  refine ⟨rfl, ?_, ?_, ?_, rfl⟩ <;> decide

end Descriptor

end NativeDeps
