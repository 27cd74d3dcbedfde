import NativeDeps.Proofs.Logging.Outcome
import NativeDeps.Proofs.Logging.Records

/-!
# What a log file records

A log file takes every message that its channel hands on, from the level of debug messages
upwards.  But a channel hands on only what is not below its own threshold, and unless the
logger is verbose, that is above the level of debug messages.

So the log file of a logger has a line for each of its messages exactly if the logger is
verbose or none of them is a debug message.  Otherwise just the lines of these are missing.
-/

namespace NativeDeps.Logging

open Files

/-- Debug messages are below the threshold unless it is that of a verbose logger. -/
theorem threshold_le_level_iff (isVerbose : Bool) (method : Method) :
    Level.threshold isVerbose ≤ method.level ↔
      (isVerbose || method ≠ .debug) = true := by
  cases isVerbose <;> cases method <;> decide

section

variable {α : Type} {items : List α} {isMeant : α → Bool} {line : α → String}

theorem length_join_filter_le
    (line : α → String) (isMeant : α → Bool) (items : List α) :
    (String.join ((items.filter isMeant).map line)).length ≤
      (String.join (items.map line)).length := by
  induction items with
  | nil => exact Nat.le_refl _
  | cons item rest induction =>
      rw [List.map_cons, String.join_cons, String.length_append]
      by_cases meant : isMeant item = true
      · rw [List.filter_cons_of_pos meant, List.map_cons, String.join_cons,
          String.length_append]
        omega
      · rw [List.filter_cons_of_neg meant]
        omega

/-- Lines that are left out are missing in the text, provided that no line is empty. -/
theorem join_filter_eq_iff (notEmpty : ∀ item, line item ≠ "") :
    String.join ((items.filter isMeant).map line) =
        String.join (items.map line) ↔
      ∀ item ∈ items, isMeant item = true := by
  constructor
  · intro same
    induction items with
    | nil => exact List.forall_mem_nil _
    | cons item rest induction =>
        rw [List.map_cons, String.join_cons] at same
        by_cases meant : isMeant item = true
        · rw [List.filter_cons_of_pos meant, List.map_cons, String.join_cons,
            String.append_right_inj] at same
          exact List.forall_mem_cons.2 ⟨meant, induction same⟩
        · -- The text of the rest would be as long as with the line in front of it.
          rw [List.filter_cons_of_neg meant] at same
          have notLonger := length_join_filter_le line isMeant rest
          have sameLength := congrArg String.length same
          have isLonger : (line item).length ≠ 0 := by
            simpa using notEmpty item
          rw [String.length_append] at sameLength
          omega
  · intro areMeant
    rw [List.filter_eq_self.2 areMeant]

end

namespace Loggers

/-- A logger is kept as it was opened, and its log file stands. -/
structure Logs (loggers : Loggers) (opening : Opening) (place : Location) :
    Prop where
  kept : loggers.slots.lookup opening.slot = some opening.name
  has :
    loggers.registry.channel? opening.name =
      some (.opened opening.isVerbose (some place))
  stands : loggers.registry.files.IsFile place

variable {loggers : Loggers} {opening : Opening} {place : Location}

theorem logs_of_perform
    (opens : (loggers.perform (.opens opening)).1 = .ok "")
    (named :
      opening.place? loggers.registry.files.directory = some place) :
    (loggers.perform (.opens opening)).2.Logs opening place := by
  have installs := installs_of_perform opens
  constructor
  · rw [installs.slots, lookup_slots_cons, if_pos rfl]
  · rw [installs.channels, if_pos rfl, Opening.channel, named]
  · exact (installs.adds place named).isFile (.inr rfl)

namespace Logs

/-- Only openings in the slot or for the name of a logger change how it is kept. -/
theorem perform
    (logs : loggers.Logs opening place) (sound : loggers.IsSound) {act : Act}
    (isOther :
      ∀ other,
        act = .opens other →
          other.slot ≠ opening.slot ∧
            Registry.channelName other.name ≠
              Registry.channelName opening.name) :
    (loggers.perform act).2.Logs opening place := by
  have outcome := sound.outcome_perform act
  constructor
  · rcases outcome.slot_cases opening.slot with
      same | ⟨other, isOpening, isSlot, _⟩
    · exact same.trans logs.kept
    · exact absurd isSlot (isOther other isOpening).1
  · rcases outcome.channel_cases opening.name with
      ⟨same, _⟩ | ⟨other, _, isOpening, isNamed, _⟩
    · exact same.trans logs.has
    · exact absurd isNamed.symm (isOther other isOpening).2
  · exact outcome.isFile logs.stands

theorem after
    (logs : loggers.Logs opening place) (sound : loggers.IsSound)
    {later : List Act}
    (areOthers :
      ∀ other ∈ openings later,
        other.slot ≠ opening.slot ∧
          Registry.channelName other.name ≠
            Registry.channelName opening.name) :
    (loggers.after later).Logs opening place := by
  induction later generalizing loggers with
  | nil => exact logs
  | cons act later induction =>
      have logsNext : (loggers.perform act).2.Logs opening place := by
        apply logs.perform sound
        rintro other rfl
        exact areOthers other List.mem_cons_self
      apply induction logsNext (sound.perform act)
      intro other member
      apply areOthers other
      rw [← List.singleton_append, openings_append]
      exact List.mem_append_right _ member

/-- A message to the logger adds its line to the log file, if it is not below the threshold. -/
theorem contentAt_message
    (logs : loggers.Logs opening place) {message : Message}
    (isOwn : message.slot = opening.slot) :
    (loggers.perform (.gives message)).2.registry.files.contentAt place =
      (loggers.registry.files.contentAt place).append
        (if opening.isVerbose || message.method ≠ .debug then
          message.fileLine
        else
          "") := by
  have kept := logs.kept
  rw [← isOwn] at kept
  rw [perform_message_of_channel kept logs.has]
  simp only [threshold_le_level_iff]
  split_ifs with isHeard
  · have adds :=
      (Tree.addsAt_append logs.stands message.fileLine).contentAt place
    rwa [if_pos rfl] at adds
  · exact (Content.append_empty _).symm

/-- After messages to the logger its log file has the lines of those that were heard. -/
theorem contentAt_messages
    (logs : loggers.Logs opening place) (sound : loggers.IsSound)
    {messages : List Message}
    (areOwn : ∀ message ∈ messages, message.slot = opening.slot) :
    (loggers.after (messages.map .gives)).registry.files.contentAt place =
      (loggers.registry.files.contentAt place).append
        (String.join
          ((messages.filter fun message =>
            opening.isVerbose || message.method ≠ .debug).map
              Message.fileLine)) := by
  induction messages generalizing loggers with
  | nil => exact (Content.append_empty _).symm
  | cons message rest induction =>
      obtain ⟨isOwn, restOwn⟩ := List.forall_mem_cons.1 areOwn
      have logsNext : (loggers.perform (.gives message)).2.Logs opening place :=
        logs.perform sound nofun
      rw [List.map_cons, Loggers.after,
        induction logsNext (sound.perform _) restOwn,
        logs.contentAt_message isOwn, Content.append_append, List.filter_cons]
      split_ifs
      · rw [List.map_cons, String.join_cons]
      · rw [String.empty_append]

end Logs

/--
Whatever was done before a logger was opened with a log file, and whatever was done since
with other loggers: messages to it add their lines to the log file in order, but those of
debug messages only if it is verbose.  So each of them has its line there exactly if the
logger is verbose or no debug message is among them.
-/
theorem log_file_is_full_record_iff
    (files : Tree) (earlier later : List Act) (opening : Opening)
    (messages : List Message)
    (opens :
      (((fresh files).after earlier).perform (.opens opening)).1 = .ok "")
    (named : opening.place? files.directory = some place)
    (areOthers :
      ∀ other ∈ openings later,
        other.slot ≠ opening.slot ∧
          Registry.channelName other.name ≠
            Registry.channelName opening.name)
    (areOwn : ∀ message ∈ messages, message.slot = opening.slot)
    (reached :
      (((fresh files).after earlier).perform (.opens opening)).2.after later =
        loggers) :
    (loggers.after (messages.map .gives)).registry.files.get? place =
        some
          (.file
            ((loggers.registry.files.contentAt place).append
              (String.join
                ((messages.filter fun message =>
                  opening.isVerbose || message.method ≠ .debug).map
                    Message.fileLine)))) ∧
      ((loggers.after (messages.map .gives)).registry.files.get? place =
          some
            (.file
              ((loggers.registry.files.contentAt place).append
                (String.join (messages.map Message.fileLine)))) ↔
        opening.isVerbose = true ∨
          ∀ message ∈ messages, message.method ≠ .debug) := by
  subst reached
  have sound := isSound_after_fresh files earlier
  have soundOpened := sound.perform (.opens opening)
  have soundNow := soundOpened.after later
  rw [← directory_after_fresh files earlier] at named
  have logs := (logs_of_perform opens named).after soundOpened areOthers
  have logsAfter :
      (((((fresh files).after earlier).perform (.opens opening)).2.after
            later).after
          (messages.map .gives)).Logs opening place := by
    apply logs.after soundNow
    rw [openings_map_gives]
    exact List.forall_mem_nil _
  have filled := logsAfter.stands
  rw [Tree.IsFile, logs.contentAt_messages soundNow areOwn] at filled
  refine ⟨filled, ?_⟩
  rw [filled, Option.some.injEq, Entry.file.injEq, Content.append_right_inj,
    join_filter_eq_iff Message.fileLine_ne_empty]
  cases opening.isVerbose <;> simp

/-- A logger with another name and the same log file. -/
def partWithLog : List Act :=
  [.opens
      { slot := "b", name := "tool.part", isVerbose := false
        file := some "./run.log" },
    .gives (atNoon "b" .info "part")]

def startAndStop : List Message :=
  [atNoon "a" .debug "start", atNoon "a" .error "stop"]

/-- The log file of a verbose logger has its debug message, behind what others have written. -/
theorem log_file_is_full_record_of_verbose :
    ((fresh homeWithLog).perform (.opens (toolWithLog true))).1 = .ok "" ∧
      ((((fresh homeWithLog).perform
                  (.opens (toolWithLog true))).2.after partWithLog).after
              (startAndStop.map .gives)).registry.files.get?
            ["home", "run.log"] =
          some
            (.file
              (.text
                ("old\n2001-02-03 12:00:00 [INFO] part\n" ++
                  "2001-02-03 12:00:00 [DEBUG] start\n" ++
                  "2001-02-03 12:00:00 [ERROR] stop\n"))) := by
  have opens :
      ((fresh homeWithLog).perform (.opens (toolWithLog true))).1 = .ok "" :=
    rfl
  refine ⟨opens, ?_⟩
  have isFull :=
    log_file_is_full_record_iff homeWithLog [] partWithLog (toolWithLog true)
      startAndStop opens rfl (by decide) (by decide) rfl
  refine (isFull.2.2 (.inl rfl)).trans ?_
  decide +kernel

/-- A logger that is not verbose leaves its debug message out of its log file. -/
theorem log_file_misses_debug_message :
    (fresh homeWithLog).results
          [.opens (toolWithLog false),
            .gives (atNoon "a" .debug "start")] =
        [.ok "", .ok ""] ∧
      ((fresh homeWithLog).after
              [.opens (toolWithLog false),
                .gives (atNoon "a" .debug "start")]).registry.files.get?
            ["home", "run.log"] =
          some (.file (.text "old\n")) := by
  refine ⟨rfl, ?_⟩
  decide +kernel

end Loggers

end NativeDeps.Logging
