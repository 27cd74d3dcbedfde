import Mathlib.Data.List.Basic
import Mathlib.Data.List.Nodup
import NativeDeps.Proofs.Manifest.RoundTrip
import NativeDeps.Proofs.Resolution
import NativeDeps.Rendering

/-!
# Distinct attribute paths

Two dependencies are the same for validation and for resolution when they have the same
identifier, while what is asked for is an attribute path.  The paths of the base
dependencies are their identifiers, and those of the conditional ones differ among
themselves, since all stand in one namespace.  So a path occurs twice exactly where a base
identifier is spelled like the path of a new conditional dependency.

The lines of a Nix expression and the entries of a manifest are distinct exactly where the
paths are.
-/

namespace NativeDeps

/-- In one namespace different identifiers have different paths. -/
theorem Dependency.attributePath_injective (scope : Option Spelling) :
    Function.Injective fun identifier =>
      Dependency.attributePath ⟨identifier, scope⟩ := by
  intro left right same
  cases scope with
  | none => exact same
  | some path =>
      by_cases isEmpty : path = ""
      · simpa only [attributePath, if_pos isEmpty] using same
      · simp only [attributePath, if_neg isEmpty] at same
        exact List.append_cancel_left same

namespace Nix

theorem inputLine_injective : Function.Injective inputLine := by
  intro left right same
  exact List.append_cancel_left same

/-- A line with less blanks in front is not the line of an item. -/
theorem not_mem_map_inputLine
    (line : Spelling) (paths : List Spelling)
    (notIndented : ¬ Spelling.ofText "    " <+: line) :
    line ∉ paths.map inputLine := by
  intro member
  obtain ⟨path, _, rfl⟩ := List.mem_map.1 member
  exact notIndented (List.prefix_append _ _)

/-- The lines of the inputs are distinct exactly if the paths are. -/
theorem nodup_inputLines_iff (paths : List Spelling) :
    (inputLines paths).Nodup ↔ paths.Nodup := by
  have notOpening :=
    not_mem_map_inputLine "  buildInputs = with pkgs; [" paths (by decide)
  have notClosing := not_mem_map_inputLine "  ];" paths (by decide)
  rw [inputLines]
  split_ifs with noPaths
  · rw [List.isEmpty_iff.1 noPaths]
    exact iff_of_true (List.nodup_singleton _) List.nodup_nil
  · rw [List.nodup_cons, List.concat_eq_append, List.mem_append,
      List.nodup_append', List.nodup_map_iff inputLine_injective]
    constructor
    · rintro ⟨_, distinct, _⟩
      exact distinct
    · intro distinct
      refine ⟨?_, distinct, List.nodup_singleton _, ?_⟩
      · rintro (isItem | isClosing)
        · exact notOpening isItem
        · revert isClosing
          decide
      · rw [List.disjoint_singleton]
        exact notClosing

end Nix

namespace Descriptor

/--
Whether a base dependency is spelled like the path of a conditional one that is not a base
dependency itself.
-/
def SpellsPath (descriptor : Descriptor) : Prop :=
  ∃ scope, descriptor.scope = some scope ∧ scope ≠ "" ∧
    ∃ identifier ∈ descriptor.conditional,
      identifier ∉ descriptor.base ∧
        scope ++ "." ++ identifier ∈ descriptor.base

/-- Whether a path is asked for twice on a host. -/
def RepeatsPath (descriptor : Descriptor) (host : Option Spelling) : Prop :=
  descriptor.condition.holds host = true ∧ descriptor.SpellsPath

/-- The paths of a host: the base identifiers, and the new conditional ones in their scope. -/
theorem attributePaths_resolve
    (descriptor : Descriptor) (host : Option Spelling) :
    (descriptor.resolve host).attributePaths =
      descriptor.base ++
        if descriptor.condition.holds host then
          descriptor.newConditional.map fun identifier =>
            Dependency.attributePath ⟨identifier, descriptor.scope⟩
        else
          [] := by
  rw [DependencySet.attributePaths, resolve, dependencies_eq, List.map_append,
    List.map_map]
  congr 1
  · exact List.map_id _
  · cases descriptor.condition.holds host with
    | false => rfl
    | true => exact List.map_map

/-- A conditional path is a base identifier only if it has a scope in front. -/
theorem disjoint_paths_iff (descriptor : Descriptor) :
    List.Disjoint descriptor.base
        (descriptor.newConditional.map fun identifier =>
          Dependency.attributePath ⟨identifier, descriptor.scope⟩) ↔
      ¬ descriptor.SpellsPath := by
  constructor
  · rintro disjoint
      ⟨scope, isScope, notEmpty, identifier, listed, isNew, spelled⟩
    apply disjoint spelled
    apply List.mem_map.2
    refine ⟨identifier, List.mem_filter.2 ⟨listed, by simpa using isNew⟩, ?_⟩
    simp only [isScope, Dependency.attributePath, if_neg notEmpty]
  · intro notSpelled path inBase inConditional
    obtain ⟨identifier, member, rfl⟩ := List.mem_map.1 inConditional
    obtain ⟨listed, isNew⟩ := List.mem_filter.1 member
    have notBase : identifier ∉ descriptor.base := by simpa using isNew
    cases isScope : descriptor.scope with
    | none =>
        rw [isScope] at inBase
        exact notBase inBase
    | some scope =>
        rw [isScope] at inBase
        by_cases isEmpty : scope = ""
        · simp only [Dependency.attributePath, if_pos isEmpty] at inBase
          exact notBase inBase
        · simp only [Dependency.attributePath, if_neg isEmpty] at inBase
          exact
            notSpelled
              ⟨scope, isScope, isEmpty, identifier, listed, notBase, inBase⟩

theorem nodup_attributePaths_iff
    (descriptor : Descriptor) (host : Option Spelling) :
    (descriptor.resolve host).attributePaths.Nodup ↔
      ¬ descriptor.RepeatsPath host := by
  obtain ⟨baseNodup, conditionalNodup⟩ := descriptor.nodup_base_conditional
  have conditionalPathsNodup :
      (descriptor.newConditional.map fun identifier =>
        Dependency.attributePath ⟨identifier, descriptor.scope⟩).Nodup := by
    rw [List.nodup_map_iff (Dependency.attributePath_injective _)]
    exact conditionalNodup.filter _
  rw [attributePaths_resolve, RepeatsPath]
  cases descriptor.condition.holds host with
  | false => simpa using baseNodup
  | true =>
      rw [if_pos rfl, List.nodup_append', disjoint_paths_iff,
        and_iff_right baseNodup, and_iff_right conditionalPathsNodup,
        and_iff_right rfl]

/--
The paths of a resolved set, the lines of its inputs in a Nix expression and the entries
of its manifest, as it is read back, are distinct exactly where no base identifier is the
path of a new conditional dependency.
-/
theorem distinct_paths_resolve_iff
    (descriptor : Descriptor) (host : Option Spelling) :
    ∃ set manifest entries,
      descriptor.resolveOn (.ofSpellingOrNull host) = .ok set ∧
        Configuration.valueOf (.text (Manifest.text set)) = .ok manifest ∧
        manifest.getText "dependencies" = .ok (.list entries) ∧
        (set.attributePaths.Nodup ↔ ¬ descriptor.RepeatsPath host) ∧
        ((Nix.inputLines set.attributePaths).Nodup ↔
          ¬ descriptor.RepeatsPath host) ∧
        (entries.Nodup ↔ ¬ descriptor.RepeatsPath host) := by
  have paths := descriptor.nodup_attributePaths_iff host
  have ofSpelling_injective : Function.Injective Value.ofSpelling := by
    intro left right same
    exact Value.ofSpelling_injective same
  refine
    ⟨descriptor.resolve host, Manifest.value (descriptor.resolve host),
      (descriptor.resolve host).attributePaths.map .ofSpelling,
      descriptor.resolveOn_ofSpellingOrNull host, Manifest.read_text _, rfl, paths,
      (Nix.nodup_inputLines_iff _).trans paths, ?_⟩
  rw [List.nodup_map_iff ofSpelling_injective, paths]

/-- A project that names a framework with its whole path and without. -/
def shadowedProject : Descriptor where
  name := "signer"
  base := ["zlib", "darwin.frameworks.Security"]
  condition := ⟨["darwin"]⟩
  conditional := ["Security"]
  scope := some "darwin.frameworks"
  named := by decide
  lawful := by decide

/-- Validation accepts the project, and on Darwin one path is asked for twice. -/
theorem accepted_project_repeats_path :
    ofValue shadowedProject.toValue = .ok shadowedProject ∧
      ∃ set,
        shadowedProject.resolveOn (.text "darwin") = .ok set ∧
          set.attributePaths =
            ["zlib", "darwin.frameworks.Security",
              "darwin.frameworks.Security"] ∧
          ¬ set.attributePaths.Nodup := by
  have paths :
      (shadowedProject.resolve
          (some ("darwin" : Spelling))).attributePaths =
        ["zlib", "darwin.frameworks.Security",
          "darwin.frameworks.Security"] := by
    decide +kernel
  refine
    ⟨rfl, _,
      shadowedProject.resolveOn_ofSpellingOrNull (some ("darwin" : Spelling)),
      paths, ?_⟩
  rw [paths]
  decide

end Descriptor

end NativeDeps
