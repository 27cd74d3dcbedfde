import NativeDeps.Proofs.Logging.Outcome
import NativeDeps.Proofs.Logging.Records

/-!
# Colours

A record goes to the console first and then to the log file, and on a terminal the console
paints it.  What it paints is a copy, so whether the console is a terminal decides nothing
but what is printed: two runs that differ in that leave the same loggers and the same files.

What is printed differs by the colours alone: one colour code in front of the name of the
level and one in front of the message, and a reset behind each of them.
-/

namespace NativeDeps.Logging

open Files

namespace Registry

variable {written otherWritten : String × Registry}

/-- A handler writes the same to files, whatever was printed before. -/
theorem snd_handle_congr
    (isTerminal otherTerminal : Bool) (now : Calendar.Moment) (level : Level)
    (record : Record) (handler : Handler)
    (same : otherWritten.2 = written.2) :
    (handle otherTerminal now level record otherWritten handler).2 =
      (handle isTerminal now level record written handler).2 := by
  rcases written with ⟨text, registry⟩
  rcases otherWritten with ⟨otherText, otherRegistry⟩
  obtain rfl : otherRegistry = registry := same
  rw [handle, handle]
  dsimp only
  split_ifs
  · cases handler.target <;> rfl
  · rfl

theorem snd_foldl_handle_congr
    (isTerminal otherTerminal : Bool) (now : Calendar.Moment) (level : Level)
    (record : Record) (handlers : List Handler)
    (same : otherWritten.2 = written.2) :
    (handlers.foldl (handle otherTerminal now level record)
        otherWritten).2 =
      (handlers.foldl (handle isTerminal now level record) written).2 := by
  induction handlers generalizing written otherWritten with
  | nil => exact same
  | cons handler rest induction =>
      apply induction
      exact snd_handle_congr isTerminal otherTerminal now level record _ same

/-- Whether the console is a terminal does not matter to the log files. -/
theorem snd_send_congr
    (registry : Registry) (isTerminal otherTerminal : Bool)
    (now : Calendar.Moment) (name : Spelling) (level : Level)
    (record : Record) :
    (registry.send otherTerminal now name level record).2 =
      (registry.send isTerminal now name level record).2 := by
  rw [send, send]
  cases registry.channel? name with
  | none => rfl
  | some channel =>
      dsimp only
      split_ifs
      · exact snd_foldl_handle_congr _ _ _ _ _ _ rfl
      · rfl

end Registry

namespace Message

/-- A message to a console that is a terminal, or is none. -/
def on (message : Message) (isTerminal : Bool) : Message :=
  { message with isTerminal := isTerminal }

/--
The line of a message on the console, with one text in front of the name of its level and
of its own text, and one behind each of them.
-/
def lineBetween (message : Message) (isVerbose : Bool)
    (front behind : String) : String :=
  (if isVerbose then timeText message.now ++ " [" else "[") ++
    (front ++ message.method.level.name ++ behind) ++ "] " ++
    (front ++ message.text ++ behind) ++ "\n"

theorem consoleLine_on_false (message : Message) (isVerbose : Bool) :
    (message.on false).consoleLine isVerbose =
      message.lineBetween isVerbose "" "" := by
  simp [consoleLine, Logging.consoleLine, coloured, lineBetween, on]

theorem consoleLine_on_true (message : Message) (isVerbose : Bool) :
    (message.on true).consoleLine isVerbose =
      message.lineBetween isVerbose
        (colourCode message.method.level.name) resetCode :=
  rfl

end Message

/-- The same thing done while the console is a terminal, or is none. -/
def Act.on (isTerminal : Bool) : Act → Act
  | .opens opening => .opens opening
  | .gives message => .gives (message.on isTerminal)

namespace Loggers

theorem snd_perform_on
    (loggers : Loggers) (isTerminal : Bool) (act : Act) :
    (loggers.perform (act.on isTerminal)).2 = (loggers.perform act).2 := by
  cases act with
  | opens opening => rfl
  | gives message =>
      rw [Act.on, perform, perform]
      simp only [Message.on]
      cases loggers.slots.lookup message.slot with
      | none => rfl
      | some name =>
          exact
            congrArg (Loggers.mk · loggers.slots)
              (Registry.snd_send_congr _ _ _ _ _ _ _)

/-- A whole run leaves the same loggers and files, on a terminal or not. -/
theorem after_map_on
    (loggers : Loggers) (isTerminal : Bool) (acts : List Act) :
    loggers.after (acts.map (.on isTerminal)) = loggers.after acts := by
  induction acts generalizing loggers with
  | nil => rfl
  | cons act later induction =>
      rw [List.map_cons, Loggers.after, Loggers.after, snd_perform_on,
        induction]

/--
Whatever is done with loggers, on a terminal it leaves the same loggers and the same files
as off a terminal.  After that a message to a logger that is kept prints nothing either way
or one line either way, and then the two lines are the same but for one colour code in front
of the name of the level and of the message, and one reset behind each of them.
-/
theorem colours_stay_on_console
    (files : Tree) (acts : List Act) (message : Message)
    {loggers : Loggers} {name : Spelling}
    (reached : (fresh files).after acts = loggers)
    (kept : loggers.slots.lookup message.slot = some name) :
    (fresh files).after (acts.map (.on true)) = loggers ∧
      (fresh files).after (acts.map (.on false)) = loggers ∧
      ∃ isVerbose file,
        loggers.registry.channel? name = some (.opened isVerbose file) ∧
          loggers.perform (.gives (message.on false)) =
            (if Level.threshold isVerbose ≤ message.method.level then
              (.ok (message.lineBetween isVerbose "" ""),
                { loggers with
                  registry :=
                    loggers.registry.addLine message.fileLine file })
            else
              (.ok "", loggers)) ∧
          loggers.perform (.gives (message.on true)) =
            (if Level.threshold isVerbose ≤ message.method.level then
              (.ok
                  (message.lineBetween isVerbose
                    (colourCode message.method.level.name) resetCode),
                { loggers with
                  registry :=
                    loggers.registry.addLine message.fileLine file })
            else
              (.ok "", loggers)) := by
  subst reached
  obtain ⟨isVerbose, file, has, _⟩ :=
    isSound_after_fresh files acts message.slot name kept
  refine ⟨after_map_on _ true acts, after_map_on _ false acts, ?_⟩
  refine ⟨isVerbose, file, has, ?_, ?_⟩
  · rw [← Message.consoleLine_on_false]
    exact perform_message_of_channel kept has
  · rw [← Message.consoleLine_on_true]
    exact perform_message_of_channel kept has

/-- A message with a percent sign, a line break and an escape code of its own. -/
def boldMessage : Message :=
  atNoon "b" .success "100%\n\x1b[1mdone"

/-- In the slot of the verbose logger the message is painted green, and else as it is. -/
theorem colours_stay_on_console_of_part :
    ((fresh homeWithLog).after sharedLog).slots.lookup boldMessage.slot =
        some "tool.part" ∧
      (((fresh homeWithLog).after sharedLog).perform
            (.gives (boldMessage.on false))).1 =
          .ok "12:00:00 [SUCCESS] 100%\n\x1b[1mdone\n" ∧
      (((fresh homeWithLog).after sharedLog).perform
            (.gives (boldMessage.on true))).1 =
          .ok
            ("12:00:00 [\x1b[92mSUCCESS\x1b[0m] " ++
              "\x1b[92m100%\n\x1b[1mdone\x1b[0m\n") := by
  have kept :
      ((fresh homeWithLog).after sharedLog).slots.lookup boldMessage.slot =
        some "tool.part" :=
    rfl
  obtain ⟨_, _, isVerbose, file, has, plain, painted⟩ :=
    colours_stay_on_console homeWithLog sharedLog boldMessage rfl kept
  have isVerboseChannel :
      ((fresh homeWithLog).after sharedLog).registry.channel? "tool.part" =
        some (.opened true none) :=
    rfl
  rw [isVerboseChannel, Option.some.injEq, Channel.opened_inj] at has
  obtain ⟨rfl, rfl⟩ := has
  refine ⟨kept, ?_, ?_⟩
  · rw [plain]
    rfl
  · rw [painted]
    rfl

end Loggers

end NativeDeps.Logging
