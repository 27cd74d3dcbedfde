import NativeDeps.Logging.Registry
import NativeDeps.Proofs.Value

/-!
# Lines of messages

A message without arguments is one line: on the console with its level, and with the time
of day if that is asked for, in a log file with the date and the time.  Percent signs in a
message are no places, for its text is never read as a template.
-/

namespace NativeDeps

namespace Logging.Template

/-- A place that takes a text by its name, as it is. -/
def textPlace (name : String) (index : Nat) : Place :=
  ⟨.written name.toList, [], .none, .none, some 's', index⟩

/-- The pieces that take the level and the message. -/
def levelAndMessage (levelIndex messageIndex : Nat) : List Piece :=
  [.literal '[', .place (textPlace "levelname" levelIndex), .literal ']',
    .literal ' ', .place (textPlace "message" messageIndex)]

section

variable {entries : List (Value × Value)} {queue : List Value}
  {name level content time : String}

theorem fillPlace_textPlace
    (field : Value.field? name entries = some (.text content)) (index : Nat) :
    fillPlace (textPlace name index) ⟨some entries, queue⟩ =
      .ok (content.toList, ⟨some entries, []⟩) := by
  have selected :
      (⟨some entries, queue⟩ : Supply).select (.written name.toList) =
        .ok ⟨some entries, [.text content]⟩ := by
    rw [Supply.select]
    dsimp only
    rw [String.ofList_toList, field]
  have asItIs :
      (⟨[], false, 0, none⟩ : Shape).text content.toList = content.toList := by
    simp [Shape.text, Shape.justify, Text.padLeft]
  rw [fillPlace, textPlace, selected]
  show
    Except.ok
        ((⟨[], false, 0, none⟩ : Shape).text (Value.told (.text content)).toList,
          _) = _
  rw [Value.told_text, asItIs]

theorem fillPieces_textPlace
    (field : Value.field? name entries = some (.text content)) (index : Nat)
    (rest : List Piece) :
    fillPieces ⟨some entries, queue⟩
        (.place (textPlace name index) :: rest) =
      (fillPieces ⟨some entries, []⟩ rest).map (content.toList ++ ·) := by
  rw [fillPieces, fillPlace_textPlace field]

theorem fillPieces_levelAndMessage
    (isLevel : Value.field? "levelname" entries = some (.text level))
    (isMessage : Value.field? "message" entries = some (.text content))
    (levelIndex messageIndex : Nat) :
    fillPieces ⟨some entries, queue⟩
        (levelAndMessage levelIndex messageIndex) =
      .ok ("[" ++ level ++ "] " ++ content).toList := by
  rw [levelAndMessage, fillPieces, fillPieces_textPlace isLevel, fillPieces,
    fillPieces, fillPieces_textPlace isMessage]
  show Except.ok _ = _
  simp

/-- What the console shows of a level and a message. -/
theorem fill_terse
    (isLevel : Value.field? "levelname" entries = some (.text level))
    (isMessage : Value.field? "message" entries = some (.text content)) :
    fill "[%(levelname)s] %(message)s" (.ofMapping entries) =
      .ok ("[" ++ level ++ "] " ++ content) := by
  have read :
      pieces 0 0 "[%(levelname)s] %(message)s".toList =
        levelAndMessage 13 26 := by
    decide
  rw [fill, read, Supply.ofMapping,
    fillPieces_levelAndMessage isLevel isMessage]
  exact congrArg Except.ok (String.ofList_toList)

/-- What the console shows of a time, a level and a message. -/
theorem fill_timed
    (isTime : Value.field? "asctime" entries = some (.text time))
    (isLevel : Value.field? "levelname" entries = some (.text level))
    (isMessage : Value.field? "message" entries = some (.text content)) :
    fill "%(asctime)s [%(levelname)s] %(message)s" (.ofMapping entries) =
      .ok (time ++ " [" ++ level ++ "] " ++ content) := by
  have read :
      pieces 0 0 "%(asctime)s [%(levelname)s] %(message)s".toList =
        .place (textPlace "asctime" 10) :: .literal ' ' ::
          levelAndMessage 25 38 := by
    decide
  rw [fill, read, Supply.ofMapping, fillPieces_textPlace isTime, fillPieces,
    fillPieces_levelAndMessage isLevel isMessage]
  show Except.ok (String.ofList _) = _
  refine congrArg Except.ok (String.ext ?_)
  simp

end

end Logging.Template

/-- A message without arguments appears with its level, and when that is asked for its time. -/
theorem Logging.apply_consoleLayout
    (isVerbose : Bool) (now : Calendar.Moment) (levelName content : String) :
    (consoleLayout isVerbose now).apply
        { levelName := levelName, message := .text content } =
      .ok
        ((if isVerbose then timeText now ++ " [" else "[") ++ levelName ++
          "] " ++ content) := by
  let record : Record := { levelName := levelName, message := .text content }
  have unchanged : record.text = .ok content :=
    congrArg Except.ok (Value.told_text content)
  rw [Layout.apply, unchanged]
  dsimp only
  cases isVerbose with
  | true =>
      have filled :
          Template.fill (consoleLayout true now).template
              (.ofMapping ((consoleLayout true now).fields record content)) =
            .ok (timeText now ++ " [" ++ levelName ++ "] " ++ content) :=
        Template.fill_timed rfl rfl rfl
      rw [filled]
      rfl
  | false =>
      have filled :
          Template.fill (consoleLayout false now).template
              (.ofMapping ((consoleLayout false now).fields record content)) =
            .ok ("[" ++ levelName ++ "] " ++ content) :=
        Template.fill_terse rfl rfl
      rw [filled]
      rfl

namespace Logging

/-- A text as the console shows it, in the colour of a level on a terminal. -/
def coloured (isTerminal : Bool) (levelName text : String) : String :=
  if isTerminal then paint levelName text else text

/-- The line of a message on the console. -/
def consoleLine (isVerbose isTerminal : Bool) (now : Calendar.Moment)
    (levelName content : String) : String :=
  (if isVerbose then timeText now ++ " [" else "[") ++
    coloured isTerminal levelName levelName ++ "] " ++
    coloured isTerminal levelName content ++ "\n"

theorem consoleLine_ne_empty
    (isVerbose isTerminal : Bool) (now : Calendar.Moment)
    (levelName content : String) :
    consoleLine isVerbose isTerminal now levelName content ≠ "" := by
  intro isEmpty
  have length := congrArg String.length isEmpty
  simp [consoleLine, String.length_append] at length

theorem lineOf_applyToConsole
    (isVerbose isTerminal : Bool) (now : Calendar.Moment)
    (levelName content : String) :
    Registry.lineOf
        ((consoleLayout isVerbose now).applyToConsole isTerminal
          { levelName := levelName, message := .text content }) =
      consoleLine isVerbose isTerminal now levelName content := by
  rw [Layout.applyToConsole, if_neg Bool.false_ne_true, consoleLine, coloured,
    coloured]
  cases isTerminal with
  | true =>
      have painted :
          ({ levelName := levelName, message := .text content } :
              Record).painted =
            { levelName := paint levelName levelName
              message := .text (paint levelName content) } := by
        rw [Record.painted, Value.told_text]
      rw [if_pos rfl, painted, apply_consoleLayout]
      rfl
  | false =>
      rw [if_neg Bool.false_ne_true, apply_consoleLayout]
      rfl

/-- The line of a message in a log file. -/
def fileLine (now : Calendar.Moment) (levelName content : String) : String :=
  String.ofList now.date.chars ++ " " ++ timeText now ++ " [" ++ levelName ++
    "] " ++ content ++ "\n"

theorem fileLine_ne_empty
    (now : Calendar.Moment) (levelName content : String) :
    fileLine now levelName content ≠ "" := by
  intro isEmpty
  have length := congrArg String.length isEmpty
  simp [fileLine, String.length_append] at length

theorem lineOf_apply_fileLayout
    (now : Calendar.Moment) (levelName content : String) :
    Registry.lineOf
        ((fileLayout now).apply
          { levelName := levelName, message := .text content }) =
      fileLine now levelName content := by
  let record : Record := { levelName := levelName, message := .text content }
  have filled :
      Template.fill (fileLayout now).template
          (.ofMapping ((fileLayout now).fields record content)) =
        .ok ((fileLayout now).time ++ " [" ++ levelName ++ "] " ++ content) :=
    Template.fill_timed rfl rfl rfl
  have unchanged : record.text = .ok content :=
    congrArg Except.ok (Value.told_text content)
  rw [Layout.apply, unchanged]
  dsimp only
  rw [filled]
  rfl

end Logging

end NativeDeps
