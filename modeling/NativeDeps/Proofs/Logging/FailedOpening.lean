import NativeDeps.Proofs.Logging.Outcome
import NativeDeps.Proofs.Logging.Records

/-!
# Failed openings

An opening whose log file cannot be opened has replaced the channel of its name by then.
It keeps no logger and changes no file, and no channel but that one, which is left with the
level and the console of the failed opening and with no log file.

So loggers that were kept before go on as if nothing had happened, unless one of them has
that name: then they do so exactly if their channel was like that already.
-/

namespace NativeDeps.Logging.Loggers

open Files

/-- Nothing that is done later prints or writes something else for one than for the other. -/
def AreAlike (loggers others : Loggers) : Prop :=
  ∀ later : List Act,
    loggers.results later = others.results later ∧
      (loggers.after later).registry.files =
        (others.after later).registry.files

/-- The same loggers are kept, with the same channels, among the same files. -/
structure Matches (loggers others : Loggers) : Prop where
  slots : others.slots = loggers.slots
  files : others.registry.files = loggers.registry.files
  channels :
    ∀ slot name,
      loggers.slots.lookup slot = some name →
        others.registry.channel? name = loggers.registry.channel? name

namespace Matches

variable {loggers others : Loggers}

theorem withoutLog
    (same : loggers.Matches others) (opening : Opening) :
    (loggers.withoutLog opening).Matches (others.withoutLog opening) where
  slots := same.slots
  files := same.files
  channels := by
    intro slot name kept
    rw [channel?_withoutLog, channel?_withoutLog,
      same.channels slot name kept]

/-- The only new channel among those of the loggers that are kept is the same for both. -/
theorem withOpened
    (same : loggers.Matches others) (opening : Opening) (files : Tree)
    (place : Option Location) :
    (loggers.withOpened opening files place).Matches
      (others.withOpened opening files place) where
  slots := congrArg (List.cons _) same.slots
  files := rfl
  channels := by
    intro slot name kept
    rw [channel?_withOpened, channel?_withOpened]
    split_ifs with isNamed
    · rfl
    · apply same.channels slot name
      simp only [Loggers.withOpened, lookup_slots_cons] at kept
      split_ifs at kept with isSlot
      · cases kept
        exact absurd rfl isNamed
      · exact kept

/-- Whether an opening succeeds depends on the files alone. -/
theorem opens
    (same : loggers.Matches others) (opening : Opening) :
    (others.perform (.opens opening)).1 =
        (loggers.perform (.opens opening)).1 ∧
      (loggers.perform (.opens opening)).2.Matches
        (others.perform (.opens opening)).2 := by
  rw [perform_opening, perform_opening, same.files]
  cases Registry.openLog loggers.registry.files opening.file with
  | error failure => exact ⟨rfl, same.withoutLog opening⟩
  | ok result => exact ⟨rfl, same.withOpened opening result.1 result.2⟩

theorem gives
    (sound : loggers.IsSound) (same : loggers.Matches others)
    (message : Message) :
    (others.perform (.gives message)).1 =
        (loggers.perform (.gives message)).1 ∧
      (loggers.perform (.gives message)).2.Matches
        (others.perform (.gives message)).2 := by
  have sameSlot := congrArg (List.lookup message.slot) same.slots
  cases kept : loggers.slots.lookup message.slot with
  | none =>
      rw [perform_message_of_free kept,
        perform_message_of_free (sameSlot.trans kept)]
      exact ⟨rfl, same⟩
  | some name =>
      obtain ⟨isVerbose, file, has, _⟩ := sound _ _ kept
      have hasThere := (same.channels _ _ kept).trans has
      rw [perform_message_of_channel kept has,
        perform_message_of_channel (sameSlot.trans kept) hasThere]
      split_ifs with isHeard
      · refine ⟨rfl, same.slots, ?_, ?_⟩
        · exact Registry.files_addLine_congr same.files _ _
        · intro slot other otherKept
          dsimp only
          rw [Registry.channel?_addLine, Registry.channel?_addLine]
          exact same.channels slot other otherKept
      · exact ⟨rfl, same⟩

theorem perform
    (sound : loggers.IsSound) (same : loggers.Matches others) (act : Act) :
    (others.perform act).1 = (loggers.perform act).1 ∧
      (loggers.perform act).2.Matches (others.perform act).2 := by
  cases act with
  | opens opening => exact same.opens opening
  | gives message => exact same.gives sound message

/-- The invariant of both runs is that the same loggers are kept with the same channels. -/
theorem areAlike
    (sound : loggers.IsSound) (same : loggers.Matches others) :
    loggers.AreAlike others := by
  intro later
  induction later generalizing loggers others with
  | nil => exact ⟨rfl, same.files.symm⟩
  | cons act later induction =>
      obtain ⟨sameResult, sameNext⟩ := same.perform sound act
      obtain ⟨sameResults, sameFiles⟩ := induction (sound.perform act) sameNext
      refine ⟨?_, sameFiles⟩
      rw [results, results, sameResult, sameResults]

end Matches

/-- A message without a text, which shows what becomes of messages. -/
def probe (slot : String) (method : Method) : Message :=
  ⟨slot, method, "", false, epoch⟩

section

variable {loggers others : Loggers} {slot : String}
  {name : Spelling}
  {isVerbose otherVerbose : Bool} {file : Option Location}

/-- A debug message shows whether a logger is verbose. -/
theorem AreAlike.isVerbose_eq
    (alike : loggers.AreAlike others)
    (kept : loggers.slots.lookup slot = some name)
    (has : loggers.registry.channel? name = some (.opened isVerbose file))
    (keptThere : others.slots.lookup slot = some name)
    (hasThere :
      others.registry.channel? name = some (.opened otherVerbose none)) :
    isVerbose = otherVerbose := by
  have sameResult := (alike [.gives (probe slot .debug)]).1
  simp only [results, List.cons.injEq, and_true] at sameResult
  rw [perform_message_of_channel kept has,
    perform_message_of_channel keptThere hasThere] at sameResult
  have isLine := (probe slot .debug).consoleLine_ne_empty true
  cases isVerbose <;> cases otherVerbose
  · rfl
  · exact absurd (Except.ok.inj sameResult).symm isLine
  · exact absurd (Except.ok.inj sameResult) isLine
  · rfl

/-- An error shows whether a logger has a log file. -/
theorem AreAlike.file_eq_none
    (alike : loggers.AreAlike others)
    (kept : loggers.slots.lookup slot = some name)
    (has : loggers.registry.channel? name = some (.opened isVerbose file))
    (stands :
      ∀ place, file = some place → loggers.registry.files.IsFile place)
    (keptThere : others.slots.lookup slot = some name)
    (hasThere :
      others.registry.channel? name = some (.opened otherVerbose none)) :
    file = none := by
  have isHeard :
      ∀ isVerbose,
        Level.threshold isVerbose ≤ (probe slot .error).method.level :=
    (by decide : ∀ isVerbose, Level.threshold isVerbose ≤ Level.error)
  have sameBefore : loggers.registry.files = others.registry.files :=
    (alike []).2
  have sameFiles := (alike [.gives (probe slot .error)]).2
  simp only [Loggers.after] at sameFiles
  rw [perform_message_of_channel kept has,
    perform_message_of_channel keptThere hasThere,
    if_pos (isHeard isVerbose), if_pos (isHeard otherVerbose)] at sameFiles
  cases file with
  | none => rfl
  | some place =>
      have adds :=
        (Tree.addsAt_append (stands place rfl)
          (probe slot .error).fileLine).contentAt place
      have unchanged :
          loggers.registry.files.append place (probe slot .error).fileLine =
            loggers.registry.files :=
        sameFiles.trans sameBefore.symm
      rw [unchanged, if_pos rfl] at adds
      have isEmpty :=
        (Content.append_right_inj _).1 ((Content.append_empty _).trans adds)
      exact absurd isEmpty.symm (Message.fileLine_ne_empty _)

end

section

variable {loggers next : Loggers} {opening : Opening} {failure : Failure}

theorem eq_withoutLog_of_perform
    (fails : loggers.perform (.opens opening) = (.error failure, next)) :
    next = loggers.withoutLog opening := by
  rw [perform_opening] at fails
  split at fails <;> cases fails
  rfl

/-- The replaced channel is noticed by the loggers that have it, unless it was like that. -/
theorem IsSound.areAlike_withoutLog_iff
    (sound : loggers.IsSound) (opening : Opening) :
    loggers.AreAlike (loggers.withoutLog opening) ↔
      ∀ slot name,
        loggers.slots.lookup slot = some name →
          Registry.channelName name = Registry.channelName opening.name →
            loggers.registry.channel? name =
              some (.opened opening.isVerbose none) := by
  constructor
  · intro alike slot name kept isNamed
    obtain ⟨isVerbose, file, has, stands⟩ := sound slot name kept
    have hasThere := channel?_withoutLog loggers opening name
    rw [if_pos isNamed] at hasThere
    obtain rfl := alike.isVerbose_eq kept has kept hasThere
    obtain rfl := alike.file_eq_none kept has stands kept hasThere
    exact has
  · intro same
    apply Matches.areAlike sound
    refine ⟨rfl, rfl, ?_⟩
    intro slot name kept
    rw [channel?_withoutLog]
    split_ifs with isNamed
    · exact (same slot name kept isNamed).symm
    · rfl

/--
However loggers were reached, an opening that fails keeps no logger and changes no file and
no channel but that of its name, which then has its level and its console and no log file.
Nothing that is done later tells that it happened, exactly if that channel was like this
before or none of the loggers that are kept has it.
-/
theorem failed_opening_goes_unnoticed_iff
    (files : Tree) (acts : List Act)
    (reached : (fresh files).after acts = loggers)
    (fails : loggers.perform (.opens opening) = (.error failure, next)) :
    next.slots = loggers.slots ∧
      next.registry.files = loggers.registry.files ∧
      (∀ name,
        Registry.channelName name ≠ Registry.channelName opening.name →
          next.registry.channel? name = loggers.registry.channel? name) ∧
      next.registry.channel? opening.name =
        some (.opened opening.isVerbose none) ∧
      (loggers.AreAlike next ↔
        ∀ slot name,
          loggers.slots.lookup slot = some name →
            Registry.channelName name = Registry.channelName opening.name →
              loggers.registry.channel? name =
                some (.opened opening.isVerbose none)) := by
  subst reached
  obtain rfl := eq_withoutLog_of_perform fails
  have sound := isSound_after_fresh files acts
  refine ⟨rfl, rfl, ?_, ?_, sound.areAlike_withoutLog_iff opening⟩
  · intro name isOther
    exact (channel?_withoutLog _ _ _).trans (if_neg isOther)
  · exact (channel?_withoutLog _ _ _).trans (if_pos rfl)

end

/-- A verbose logger without a log file, and another one with the log file from before. -/
def verboseAndLogged : List Act :=
  [.opens { slot := "a", name := "tool", isVerbose := true },
    .opens
      { slot := "b", name := "tool.part", isVerbose := false
        file := some "run.log" }]

/-- An opening of a verbose logger with a log file in a directory that is not there. -/
def unopenable : Opening where
  slot := "c"
  name := "tool"
  isVerbose := true
  file := some "missing/run.log"

/-- A second verbose logger of the same name is missed by nobody when it cannot be opened. -/
theorem failed_opening_goes_unnoticed_when_verbose :
    ((fresh homeWithLog).after verboseAndLogged).perform (.opens unopenable) =
        (.error (.files .missing "/home/missing/run.log"),
          ((fresh homeWithLog).after verboseAndLogged).withoutLog
            unopenable) ∧
      ((fresh homeWithLog).after verboseAndLogged).AreAlike
        (((fresh homeWithLog).after verboseAndLogged).withoutLog
          unopenable) := by
  have fails :
      ((fresh homeWithLog).after verboseAndLogged).perform
          (.opens unopenable) =
        (.error (.files .missing "/home/missing/run.log"),
          ((fresh homeWithLog).after verboseAndLogged).withoutLog
            unopenable) :=
    rfl
  have unnoticed :=
    (failed_opening_goes_unnoticed_iff homeWithLog verboseAndLogged rfl
      fails).2.2.2.2
  refine ⟨fails, unnoticed.2 ?_⟩
  intro slot name kept isNamed
  have slots :
      ((fresh homeWithLog).after verboseAndLogged).slots =
        [("b", ("tool.part" : Spelling)), ("a", ("tool" : Spelling))] :=
    rfl
  rw [slots, List.lookup_cons, List.lookup_cons, List.lookup_nil] at kept
  split at kept
  · cases kept
    exact absurd isNamed (by decide)
  · split at kept <;> cases kept
    rfl

/--
Behind an opening of the same name that fails, the logger with the log file shows the time
on the console, and its error is missing in the log file.
-/
theorem failed_opening_takes_log_file_away :
    (fresh homeWithLog).results
          [.opens (toolWithLog false), .gives (atNoon "a" .error "stop")] =
        [.ok "", .ok "[ERROR] stop\n"] ∧
      ((fresh homeWithLog).after
              [.opens (toolWithLog false),
                .gives (atNoon "a" .error "stop")]).registry.files.get?
            ["home", "run.log"] =
          some
            (.file (.text "old\n2001-02-03 12:00:00 [ERROR] stop\n")) ∧
      (fresh homeWithLog).results
          [.opens (toolWithLog false), .opens unopenable,
            .gives (atNoon "a" .error "stop")] =
        [.ok "", .error (.files .missing "/home/missing/run.log"),
          .ok "12:00:00 [ERROR] stop\n"] ∧
      ((fresh homeWithLog).after
              [.opens (toolWithLog false), .opens unopenable,
                .gives (atNoon "a" .error "stop")]).registry.files.get?
            ["home", "run.log"] =
          some (.file (.text "old\n")) := by
  refine ⟨rfl, ?_, rfl, ?_⟩ <;> decide +kernel

end NativeDeps.Logging.Loggers
