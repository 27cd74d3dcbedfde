import NativeDeps.Proofs.Files.Append
import NativeDeps.Proofs.Logging.Line
import NativeDeps.Proofs.Value

/-!
# Opened channels

Whatever the loggers of a name were opened with before, an opening leaves their channel
with one handler for the console, one for the log file if there is one, and nothing that
is handed on.  So a message to such a channel is one line on the console and one in the
file if it is not below the threshold, and nothing otherwise.
-/

namespace NativeDeps.Logging

open Files

/-- The channel of loggers that were opened last with a threshold and a log file. -/
def Channel.opened (isVerbose : Bool) (file : Option Location) : Channel where
  level := Level.threshold isVerbose
  propagates := false
  handlers :=
    ⟨Level.threshold isVerbose, .console isVerbose⟩ ::
      (file.map fun location => ⟨.debug, .file location⟩).toList

theorem Channel.opened_inj
    {isVerbose otherVerbose : Bool} {file otherFile : Option Location} :
    Channel.opened isVerbose file = .opened otherVerbose otherFile ↔
      isVerbose = otherVerbose ∧ file = otherFile := by
  constructor
  · intro same
    have sameHandlers := congrArg Channel.handlers same
    cases file <;> cases otherFile <;> simp [opened] at sameHandlers ⊢ <;>
      tauto
  · rintro ⟨rfl, rfl⟩
    rfl

/-- The place of a log file, for which the empty text is none. -/
def logPlace? (directory : Location) : Option Spelling → Option Location
  | none => none
  | some file =>
      if file = "" then
        none
      else
        some (((Path.ofSpelling file).absolute directory).location directory)

namespace Registry

variable {registry after : Registry} {name other : Spelling}
  {channel : Channel} {isVerbose : Bool}

theorem lookup_filter_ne
    {channels : List (Spelling × Channel)} (differs : other ≠ name) :
    (channels.filter fun entry => entry.1 ≠ name).lookup other =
      channels.lookup other := by
  induction channels with
  | nil => rfl
  | cons entry rest induction =>
      rcases entry with ⟨key, value⟩
      by_cases isKey : key = name
      · have notHere : (other == key) = false := by
          rw [isKey]
          exact beq_eq_false_iff_ne.2 differs
        rw [List.filter_cons_of_neg (by simpa using isKey), List.lookup_cons,
          notHere, induction]
      · rw [List.filter_cons_of_pos (by simpa using isKey), List.lookup_cons,
          List.lookup_cons, induction]

/-- An opening concerns the loggers of its name, and no others. -/
theorem channel?_setChannel
    (registry : Registry) (name : Spelling) (channel : Channel)
    (other : Spelling) :
    (registry.setChannel name channel).channel? other =
      if channelName other = channelName name then
        some channel
      else
        registry.channel? other := by
  rw [channel?, setChannel, List.lookup_cons]
  split_ifs with same
  · rw [same, beq_self_eq_true]
  · rw [beq_eq_false_iff_ne.2 same]
    exact lookup_filter_ne same

theorem setChannel_setChannel
    (registry : Registry) (name : Spelling) (channel later : Channel) :
    (registry.setChannel name channel).setChannel name later =
      registry.setChannel name later := by
  rw [setChannel, setChannel, setChannel, List.filter_cons_of_neg (by simp),
    List.filter_filter]
  simp

/-- Whatever the handlers of a name were, there is one for the console when it is opened. -/
theorem reopened_eq (registry : Registry) (name : Spelling) (isVerbose : Bool) :
    registry.reopened name isVerbose = .opened isVerbose none :=
  rfl

/-- Open a log file, if there is one: the files after that, and the place of the log file. -/
def openLog (files : Tree) :
    Option Spelling → Except Failure (Tree × Option Location)
  | none => .ok (files, none)
  | some file =>
      let path := (Path.ofSpelling file).absolute files.directory
      if file = "" then
        .ok (files, none)
      else if path.hasHalf then
        .error .unencodable
      else if path.hasNull then
        .error .nullInPath
      else
        match files.openForAppend path with
        | .error fault => .error (.files fault path.spelling)
        | .ok (opened, place) => .ok (opened, some place)

/--
Whether an opening succeeds is decided by the files alone.  If it does, the channel has the
log file, and if it fails, the channel has been replaced without one.
-/
theorem openWith_eq
    (registry : Registry) (name : Spelling) (isVerbose : Bool)
    (file : Option Spelling) :
    registry.openWith name isVerbose (.ofSpellingOrNull file) =
      match openLog registry.files file with
      | .error failure =>
          (.error failure,
            registry.setChannel name (.opened isVerbose none))
      | .ok (files, place) =>
          (.ok (),
            { registry.setChannel name (.opened isVerbose place) with
              files := files }) := by
  cases file with
  | none => rfl
  | some file =>
      by_cases isEmpty : file = ""
      · subst isEmpty
        rfl
      · have isGiven : (Value.ofSpelling file).isGiven = true := by
          rw [Value.isGiven_ofSpelling]
          exact bne_iff_ne.2 isEmpty
        simp only [Value.ofSpellingOrNull, openWith, openLogger, openLog,
          logPath, isGiven, Value.spelling?_ofSpelling, isEmpty, if_true,
          if_false, reopened_eq, setChannel_setChannel]
        cases ((Path.ofSpelling file).absolute registry.files.directory).hasHalf with
        | true => rfl
        | false =>
            cases ((Path.ofSpelling file).absolute
                registry.files.directory).hasNull with
            | true => rfl
            | false =>
                cases registry.files.openForAppend
                    ((Path.ofSpelling file).absolute
                      registry.files.directory) <;>
                  rfl

/-- A log file that could be opened stands at its place, with what it held before. -/
theorem eq_of_openLog
    {files opened : Tree} {file : Option Spelling} {place : Option Location}
    (opens : openLog files file = .ok (opened, place)) :
    place = logPlace? files.directory file ∧
      (place = none → opened = files) ∧
      ∀ location, place = some location → files.AddsAt location "" opened := by
  cases file with
  | none =>
      cases opens
      exact ⟨rfl, fun _ => rfl, nofun⟩
  | some file =>
      dsimp only [openLog] at opens
      rw [logPlace?]
      split_ifs at opens ⊢ with isEmpty hasHalf hasNull
      · cases opens
        exact ⟨rfl, fun _ => rfl, nofun⟩
      · split at opens
        · cases opens
        · rename_i result location isOpen
          cases opens
          refine ⟨congrArg some (Tree.eq_of_openForAppend isOpen).1, nofun, ?_⟩
          rintro location ⟨⟩
          exact Tree.addsAt_of_openForAppend isOpen

/-- What is sent to a channel that is not handed on reaches its own handlers alone. -/
theorem handlersFor_of_not_propagates
    (has : registry.channel? name = some channel)
    (stays : channel.propagates = false) (above : List Spelling) :
    registry.handlersFor (channelName name :: above) = channel.handlers := by
  rw [channel?] at has
  rw [handlersFor, has]
  dsimp only
  rw [stays, if_neg Bool.false_ne_true]

variable {level : Level} {file : Option Location}

/-- A message below the threshold is not written anywhere. -/
theorem send_of_lt
    (has : registry.channel? name = some (.opened isVerbose file))
    (isBelow : level < Level.threshold isVerbose) (isTerminal : Bool)
    (now : Calendar.Moment) (record : Record) :
    registry.send isTerminal now name level record = ("", registry) := by
  have refused : (Channel.opened isVerbose file).accepts level = false := by
    simp [Channel.accepts, Channel.opened, Int.not_le.2 isBelow]
  rw [send, has]
  dsimp only
  rw [refused, if_neg Bool.false_ne_true]

theorem debug_le_of_threshold_le
    (isHeard : Level.threshold isVerbose ≤ level) : Level.debug ≤ level := by
  refine Int.le_trans ?_ isHeard
  cases isVerbose <;> decide

/-- The registry after a line was added to the log file, if there is one. -/
def addLine (registry : Registry) (line : String) :
    Option Location → Registry
  | none => registry
  | some location =>
      { registry with files := registry.files.append location line }

@[simp]
theorem channel?_addLine
    (registry : Registry) (line : String) (file : Option Location)
    (name : Spelling) :
    (registry.addLine line file).channel? name = registry.channel? name := by
  cases file <;> rfl

/-- Which line is added to which file does not depend on any channel. -/
theorem files_addLine_congr
    {other : Registry} (same : other.files = registry.files) (line : String)
    (file : Option Location) :
    (other.addLine line file).files = (registry.addLine line file).files := by
  cases file with
  | none => exact same
  | some location => exact congrArg (·.append location line) same

/-- A message that is not below the threshold is a line on the console and in the file. -/
theorem send_of_le
    (has : registry.channel? name = some (.opened isVerbose file))
    (isHeard : Level.threshold isVerbose ≤ level) (isTerminal : Bool)
    (now : Calendar.Moment) (levelName content : String) :
    registry.send isTerminal now name level
        { levelName := levelName, message := .text content } =
      (consoleLine isVerbose isTerminal now levelName content,
        registry.addLine (fileLine now levelName content) file) := by
  have isDebug := debug_le_of_threshold_le isHeard
  have isPositive : 0 < level := Int.lt_of_lt_of_le (by decide) isDebug
  have accepted : (Channel.opened isVerbose file).accepts level = true := by
    simp [Channel.accepts, Channel.opened, isHeard, isPositive]
  rw [send, has]
  dsimp only
  rw [accepted, if_pos rfl, handlersFor_of_not_propagates has rfl,
    Channel.opened, List.foldl_cons, handle]
  dsimp only
  rw [if_pos isHeard, lineOf_applyToConsole, String.empty_append]
  cases file with
  | none => rfl
  | some location =>
      show handle isTerminal now level _ _ ⟨.debug, .file location⟩ = _
      rw [handle]
      dsimp only
      rw [if_pos isDebug, lineOf_apply_fileLayout, addLine]

end Registry

end NativeDeps.Logging
