import NativeDeps.Configuration
import NativeDeps.Proofs.Manifest.Value
import NativeDeps.Proofs.Yaml.WrittenText
import NativeDeps.Provisioner

/-!
# Manifests read back

A manifest is read by whatever reads YAML files, so it has to say what the set says to
a reader that knows nothing of it: the same name, the same host and the same paths,
each as a text, whatever it looks like.
-/

namespace NativeDeps

namespace Manifest

open Yaml

variable (set : DependencySet)

/-- A manifest is printable in ASCII, line by line. -/
theorem isOrdinary_chars : IsOrdinary (chars set) := by
  have keys :
      ∀ key ∈ ["name", "platform", "dependencies"],
        IsOrdinary key.toList := by
    decide
  rw [chars, IsOrdinary.append_iff, IsOrdinary.append_iff]
  exact
    ⟨⟨isOrdinary_writeField (keys "name" (by simp)) _,
      isOrdinary_writeField (keys "platform" (by simp)) _⟩,
      isOrdinary_writeItems (keys "dependencies" (by simp)) _⟩

/-- A manifest reads back as the value of its set. -/
theorem read_text : Yaml.read (text set) = .ok (value set) := by
  rw [Yaml.read, text, Source.ofText_of_isOrdinary (isOrdinary_chars set),
    Source.read]
  simp only [ofText_chars, ofTokens_tokens]
  show Graph.value ⟨(nodes set).toArray, 0⟩ = _
  rw [Graph.value, assemble_nodes]
  show Except.ok (Yaml.valueOf (pieces set).toArray 0) = _
  rw [valueOf_pieces]

end Manifest

namespace Provisioner

/--
Whatever the texts of a set are, a configuration reader takes its manifest for the
mapping of the name, the host and the paths, in this order and with these contents.
-/
theorem valueOf_render_manifest
    (settings : Value) (directory : Files.Path) (isDryRun : Bool)
    (set : DependencySet) :
    ∃ manifest : String,
      (make .manifest settings directory isDryRun).render set = .ok manifest ∧
        Configuration.valueOf (.text manifest) =
          .ok
            (.mapping
              [(.text "name", .ofSpelling set.name),
                (.text "platform", .ofSpellingOrNull set.host),
                (.text "dependencies",
                  .list (set.attributePaths.map .ofSpelling))]) :=
  ⟨Manifest.text set, rfl, Manifest.read_text set⟩

end Provisioner

end NativeDeps
