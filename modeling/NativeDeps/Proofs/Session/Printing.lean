import NativeDeps.Proofs.Logging.Line
import NativeDeps.Proofs.Session.Writing

/-!
# What is printed

Only what is meant for it is printed on standard output: a notice, the start of a process
and a file that is written add nothing to it.  On standard error a notice that is not
below the threshold is one line with its level and its message.
-/

namespace NativeDeps

namespace Console

open Logging

/-- A text as it appears on the console, in the colour of a level on a terminal. -/
def coloured (console : Console) (levelName text : String) : String :=
  if console.isTerminal then paint levelName text else text

/-- The line of a notice that is not below the threshold. -/
def fullLine (console : Console) (notice : Notice) : String :=
  (if console.isVerbose then timeText console.now ++ " [" else "[") ++
    console.coloured notice.level.name notice.level.name ++ "] " ++
    console.coloured notice.level.name notice.message ++ "\n"

theorem line_eq
    (console : Console) {notice : Notice}
    (isHeard : Level.threshold console.isVerbose ≤ notice.level) :
    console.line notice = console.fullLine notice := by
  rw [line, if_pos isHeard]
  exact lineOf_applyToConsole _ _ _ _ _

@[simp]
theorem errors_add
    (console : Console) (session : Session) (event : Event) :
    console.errors (session.add event).history =
      console.errors session.history ++ console.errorText event := by
  rw [errors, Session.add, List.map_append, String.join_append, ← errors]
  simp [String.join_cons]

end Console

namespace Session

/-- What was printed on standard output. -/
def printed (session : Session) : String :=
  outputOf session.history

@[simp]
theorem printed_add (session : Session) (event : Event) :
    (session.add event).printed = session.printed ++ event.outputText := by
  rw [printed, add, outputOf, List.map_append, String.join_append, ← outputOf,
    ← printed]
  simp [String.join_cons]

end Session

namespace Work

/-- A text without halves of characters is printed. -/
theorem perform_printText (text : String) (session : Session) :
    (Work.printText text).perform session =
      (.ok (), session.add (.output text)) := by
  rw [Work.printText, Spelling.text?_ofText]
  rfl

theorem wholeLines_map_ofText (lines : List String) :
    wholeLines (lines.map Spelling.ofText) = lines := by
  induction lines with
  | nil => rfl
  | cons line rest induction =>
      rw [List.map_cons, wholeLines, Spelling.text?_ofText]
      dsimp only
      rw [induction]

/-- Lines without halves of characters are all printed. -/
theorem perform_printLines (lines : List String) (session : Session) :
    (Work.printLines (lines.map Spelling.ofText)).perform session =
      (.ok (), session.add (.output (textOfLines lines))) := by
  rw [Work.printLines, wholeLines_map_ofText, List.length_map,
    if_neg (Nat.lt_irrefl _)]
  rfl

end Work

namespace Work.Keeps

theorem tell_printed (notice : Notice) :
    Keeps Session.printed (Work.tell notice) := by
  intro session
  rw [perform_tell]
  simp [Event.outputText]

theorem call_printed (call : Call) :
    Keeps Session.printed (Work.call call) := by
  intro session
  rw [perform_call]
  show (session.add (.call call)).printed = _
  simp [Event.outputText]

theorem writeValue_printed (path : Files.Path) (content : Value) :
    Keeps Session.printed (Work.writeValue path content) :=
  writeValue_of path (fun _ _ _ => rfl) content

end Work.Keeps

end NativeDeps
