import NativeDeps.Rendering
import NativeDeps.Proofs.Yaml.FieldGraph

/-!
# The graph of a manifest

The tokens of a manifest are those of its three fields inside one mapping, and its
nodes are the mapping and, in the order of their tokens, the keys, the texts and the
list.
-/

namespace NativeDeps.Manifest

open Yaml

/-- The tokens of the fields of a manifest. -/
def fieldTokens (set : DependencySet) : List Token :=
  keyTokens "name" ++ valueToken (some set.name) ::
    (keyTokens "platform" ++ valueToken set.host ::
      (keyTokens "dependencies" ++ listTokens set.attributePaths))

/-- The tokens of a manifest. -/
def tokens (set : DependencySet) : List Token :=
  .blockMappingStart :: fieldTokens set ++ [.blockEnd, .textEnd]

/-- The manifest of a set is read as its tokens. -/
theorem ofText_chars (set : DependencySet) :
    Token.ofText (chars set) none = ⟨tokens set, none⟩ := by
  have keys :
      ∀ key ∈ ["name", "platform", "dependencies"],
        isKeyWord key.toList = true := by
    decide
  let platform := writeField "platform" set.host
  let dependencies := writeItems "dependencies" set.attributePaths
  have written :
      chars set =
        writeField "name" (some set.name) ++ (platform ++ dependencies) :=
    List.append_assoc _ _ _
  have start :
      (Lexer.start (chars set) none).AtLine [] false
        (writeField "name" (some set.name) ++ (platform ++ dependencies)) := by
    rw [← written]
    exact
      @Lexer.atLine_of_opensLine .start [] false none (chars set) rfl rfl rfl
  obtain ⟨second, first, atPlatform⟩ :=
    Lexer.steps_field (keys "name" (by simp)) _ rfl start
  obtain ⟨third, next, atDependencies⟩ :=
    Lexer.steps_field (keys "platform" (by simp)) _ rfl atPlatform
  obtain ⟨last, rest, atEnd⟩ :=
    Lexer.steps_listField (keys "dependencies" (by simp)) _ atDependencies
  have lexed :=
    @Lexer.run_of_atLine _ _ _ (first.trans (next.trans rest)) atEnd
      ((chars set).length + 1) (Nat.lt_succ_self _)
  have noMark :
      dropByteOrderMark (Lexer.start (chars set) none) =
        Lexer.start (chars set) none := rfl
  rw [Token.ofText, noMark, lexed]
  simp [tokens, fieldTokens, Lexer.beforeKey]

/-- The nodes of the fields of a manifest. -/
def fieldNodes (set : DependencySet) : List Node :=
  textNode "name" :: textNode set.name :: textNode "platform" ::
    valueNode set.host :: textNode "dependencies" ::
      listNodes 6 set.attributePaths

/-- The nodes of a manifest. -/
def nodes (set : DependencySet) : List Node :=
  ⟨.mapping, .mapping [(1, 2), (3, 4), (5, 6)]⟩ :: fieldNodes set

/-- The fields of a manifest are read as its three entries. -/
theorem readEntries_fieldTokens
    (set : DependencySet) (root : Node) {fuel : Nat}
    (enough : set.attributePaths.length + 2 ≤ fuel) :
    Graph.readEntries (fuel + 5)
        (Graph.behind [root] (fieldTokens set ++ [.blockEnd, .textEnd])) =
      .ok
        ([(1, 2), (3, 4), (5, 6)],
          Graph.behind (root :: fieldNodes set) [.textEnd]) := by
  have keys :
      ∀ key ∈ ["name", "platform", "dependencies"],
        Tag.ofPlain key.toList = .text := by
    decide
  obtain ⟨first, others, listed, notStop⟩ :=
    Graph.exists_listTokens_eq_cons set.attributePaths
  let beforeList :=
    [root, textNode "name", textNode set.name, textNode "platform",
      valueNode set.host]
  have readsList :=
    @Graph.read_listTokens (beforeList ++ [textNode "dependencies"])
      [.textEnd] set.attributePaths (fuel + 2) (by omega)
  rw [listed] at readsList
  have dependencies :
      Graph.readEntries (fuel + 3)
          (Graph.behind beforeList
            (keyTokens "dependencies" ++
              first :: (others ++ [.blockEnd, .textEnd]))) =
        .ok ([(5, 6)], Graph.behind (root :: fieldNodes set) [.textEnd]) :=
    Graph.readEntries_field (keys "dependencies" (by simp)) notStop
      readsList rfl
  have platform :
      Graph.readEntries (fuel + 4)
          (Graph.behind [root, textNode "name", textNode set.name]
            (keyTokens "platform" ++ valueToken set.host ::
              (keyTokens "dependencies" ++
                first :: (others ++ [.blockEnd, .textEnd])))) =
        .ok
          ([(3, 4), (5, 6)],
            Graph.behind (root :: fieldNodes set) [.textEnd]) :=
    Graph.readEntries_field (keys "platform" (by simp))
      (Graph.contains_fieldStops_valueToken set.host)
      (Graph.read_valueToken set.host (fuel + 1)) dependencies
  have name :
      Graph.readEntries (fuel + 5)
          (Graph.behind [root]
            (keyTokens "name" ++ valueToken (some set.name) ::
              (keyTokens "platform" ++ valueToken set.host ::
                (keyTokens "dependencies" ++
                  first :: (others ++ [.blockEnd, .textEnd]))))) =
        .ok
          ([(1, 2), (3, 4), (5, 6)],
            Graph.behind (root :: fieldNodes set) [.textEnd]) :=
    Graph.readEntries_field (keys "name" (by simp))
      (Graph.contains_fieldStops_valueToken (some set.name))
      (Graph.read_valueToken (some set.name) (fuel + 2)) platform
  rw [fieldTokens, listed]
  exact name

/-- The tokens of a manifest are read as its nodes, and the first is the outermost. -/
theorem ofTokens_tokens (set : DependencySet) :
    Graph.ofTokens (tokens set) none = .ok (some ⟨(nodes set).toArray, 0⟩) := by
  have items := Graph.length_le_length_listTokens set.attributePaths
  have length :
      (tokens set).length = (listTokens set.attributePaths).length + 14 := by
    simp only [tokens, fieldTokens, keyTokens, List.length_append,
      List.length_cons, List.length_nil]
    omega
  obtain ⟨fuel, isFuel, enough⟩ :
      ∃ fuel,
        3 * (tokens set).length + 3 = fuel + 5 + 1 + 1 ∧
          set.attributePaths.length + 2 ≤ fuel :=
    ⟨3 * (tokens set).length - 4, by omega, by omega⟩
  have fields :=
    readEntries_fieldTokens set ⟨.mapping, .mapping []⟩ enough
  have reads :
      Graph.read true false (fuel + 5 + 1 + 1) (Graph.behind [] (tokens set)) =
        .ok (0, Graph.behind (nodes set) [.textEnd]) := by
    rw [tokens, List.cons_append, Graph.read_behind rfl]
    exact @Graph.read_collection [] _ _ .mapping .mapping _ _ _ _ fields
  have isContent :
      Graph.ofTokens (tokens set) none =
        Graph.readOnly (3 * (tokens set).length + 3)
          (Graph.behind [] (tokens set)) := rfl
  rw [isContent, isFuel, Graph.readOnly, reads]
  rfl

end NativeDeps.Manifest
