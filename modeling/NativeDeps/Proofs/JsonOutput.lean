import NativeDeps.Proofs.Json.RoundTrip
import NativeDeps.Proofs.RenderedExpression

/-!
# Dependencies printed as JSON

Where the environment is set up and the dependencies are resolved, a run that is asked for
them as JSON succeeds and prints one line of ASCII, and whoever reads this line as JSON has
the identifiers again, in their order and whatever characters they consist of.  Of an
identifier that is spelt with halves of characters the halves are read joined.
-/

namespace NativeDeps.CommandLine

variable {arguments : List String} {choices : Choices} {detector : Detector}
  {session started : Session} {environment : Environment}
  {set : DependencySet}

/--
The line that is printed as JSON is in ASCII and reads back as the identifiers, each with its
halves joined; so identifiers that consist of characters are read back as they are.
-/
theorem resolved_json_reads_back
    (asks : read arguments = .ok (.request ⟨.resolve, choices⟩))
    (isJson : choices.isJson = true)
    (starts :
      (Environment.start (settingsOf choices) detector).perform session =
        (.ok environment, started))
    (resolves :
      environment.workspace.descriptor.resolveOn environment.workspace.host =
        .ok set) :
    ∃ line after,
      (run arguments detector).perform session = (.ok 0, after) ∧
        after.printed = session.printed ++ (line ++ "\n") ∧
        (∀ character ∈ line.toList, Json.IsPlain character) ∧
        Json.read line = some (.list (set.identifiers.map Json.readBack)) ∧
        ∀ identifiers : List String,
          set.identifiers = identifiers.map Spelling.ofText →
            Json.read line = some (.list (identifiers.map Value.text)) := by
  rcases Workspace.perform_resolve resolves started with ⟨_, performs, _⟩
  rcases prints_json starts isJson (congrArg Prod.fst performs) with
    ⟨after, carriesOut, prints⟩
  have isRead := Json.read_array set.identifiers
  refine ⟨Json.array set.identifiers, after, ?_, prints, ?_, isRead, ?_⟩
  · rw [run, asks]
    exact carriesOut
  · intro character member
    exact Json.isPlain_of_mem_array member
  · intro identifiers areTexts
    rw [isRead, areTexts, List.map_map]
    exact
      congrArg (fun values => some (Value.list values))
        (List.map_congr_left fun text _ => Json.readBack_ofText text)

/-- A project whose identifiers hold marks, a line break and a face. -/
def markedProject : Session where
  files :=
    { entries :=
        [(["home"], .directory), (["home", "cfg"], .directory),
          (["home", "cfg", "environment.yaml"],
            .file
              (.text
                ("environment:\n  name: tool\n  base_dependencies:\n" ++
                  "  - 'a\"b\\c'\n  - \"line\\nbreak\"\n" ++
                  "  - \"\\U0001F600\"\n"))),
          (["home", "cfg", "platforms.yaml"], .file (.text ""))]
      directory := ["home"] }

/-- Marks, a line break and a face are read back from the line that is printed. -/
theorem marked_json_reads_back :
    let arguments := ["--config-dir", "cfg", "resolve", "--json"]
    let detector : Detector := ⟨⟨"Linux", "x86_64", "3.11"⟩, none⟩
    ∃ line after,
      (run arguments detector).perform markedProject = (.ok 0, after) ∧
        after.printed = line ++ "\n" ∧
        (∀ character ∈ line.toList, Json.IsPlain character) ∧
        Json.read line =
          some
            (.list [.text "a\"b\\c", .text "line\nbreak", .text "😀"]) := by
  intro arguments detector
  let choices : Choices := { configuration := some "cfg", isJson := true }
  let identifiers := ["a\"b\\c", "line\nbreak", "😀"]
  have asks : read arguments = .ok (.request ⟨.resolve, choices⟩) := by
    decide +kernel
  have identified :
      ((Environment.start (settingsOf choices) detector).perform
          markedProject).1.map
          (fun environment =>
            (environment.workspace.descriptor.resolveOn
              environment.workspace.host).map DependencySet.identifiers) =
        .ok (.ok (identifiers.map Spelling.ofText)) := by
    decide +kernel
  rcases starts :
      (Environment.start (settingsOf choices) detector).perform markedProject
    with ⟨failure | environment, started⟩
  · rw [starts] at identified
    cases identified
  · rw [starts] at identified
    have resolvesTo :
        (environment.workspace.descriptor.resolveOn
            environment.workspace.host).map DependencySet.identifiers =
          .ok (identifiers.map Spelling.ofText) :=
      Except.ok.inj identified
    cases resolves :
        environment.workspace.descriptor.resolveOn
          environment.workspace.host with
    | error failure =>
        rw [resolves] at resolvesTo
        cases resolvesTo
    | ok set =>
        rw [resolves] at resolvesTo
        have same : set.identifiers = identifiers.map Spelling.ofText :=
          Except.ok.inj resolvesTo
        rcases resolved_json_reads_back asks rfl starts resolves with
          ⟨line, after, runs, prints, isPlain, _, isRead⟩
        refine ⟨line, after, runs, ?_, isPlain, isRead identifiers same⟩
        rw [prints]
        exact String.empty_append

end NativeDeps.CommandLine
