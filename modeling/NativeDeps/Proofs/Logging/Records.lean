import NativeDeps.Proofs.Logging.Loggers

/-!
# What becomes of messages

Once loggers have been opened, however often and in whatever order, a message is one line
on the console and one in the log file, or it is nothing: there is no second line because
a logger was opened twice, and none that a logger with another name adds.  A log file is
what it was at first, followed by the lines of the messages that named it in their turn.
-/

namespace NativeDeps.Logging

open Files

/-- Openings of another kind do not change which one is the last of its kind. -/
theorem latest?_append
    {isMeant : Opening → Bool} {acts later : List Act}
    (areOthers : ∀ opening ∈ openings later, isMeant opening = false) :
    latest? isMeant (acts ++ later) = latest? isMeant acts := by
  have noneLater : (openings later).reverse.find? isMeant = none := by
    rw [List.find?_eq_none]
    intro opening member
    rw [areOthers opening (List.mem_reverse.1 member)]
    exact Bool.false_ne_true
  rw [latest?, openings_append, List.reverse_append, List.find?_append,
    noneLater, Option.none_or, latest?]

/-- What is added to log files by what is done, after some other things were done. -/
def additions (directory : Location) (earlier : List Act) :
    List Act → List (Location × String)
  | [] => []
  | .opens opening :: later =>
      additions directory (earlier ++ [.opens opening]) later
  | .gives message :: later =>
      (message.addition? directory earlier).toList ++
        additions directory (earlier ++ [.gives message]) later

/-- The text that some additions make in the file at a place. -/
def textAt (place : Location) (added : List (Location × String)) : String :=
  String.join ((added.filter (·.1 = place)).map (·.2))

theorem textAt_append (place : Location) (added others : List (Location × String)) :
    textAt place (added ++ others) = textAt place added ++ textAt place others := by
  rw [textAt, List.filter_append, List.map_append, String.join_append, ← textAt,
    ← textAt]

namespace Loggers

variable {loggers : Loggers} {directory place : Location}
  {earlier acts : List Act} {opening : Opening} {message : Message}

/-- An opening leaves every file with what it holds. -/
theorem Installs.contentAt
    {after : Loggers} (installs : loggers.Installs directory opening after)
    (place : Location) :
    after.registry.files.contentAt place =
      loggers.registry.files.contentAt place := by
  cases named : opening.place? directory with
  | none => rw [installs.unchanged named]
  | some location =>
      rw [(installs.adds location named).contentAt, ite_self,
        Content.append_empty]

theorem Tracks.contentAt_message
    (tracks : loggers.Tracks directory earlier) (message : Message)
    (place : Location) :
    (loggers.perform (.gives message)).2.registry.files.contentAt place =
      (loggers.registry.files.contentAt place).append
        (textAt place (message.addition? directory earlier).toList) := by
  rcases tracks.message_cases message with
    ⟨nothing, same⟩ | ⟨opening, isOpening, location, named, addition, same⟩
  · rw [same, nothing]
    exact (Content.append_empty _).symm
  · have adds :=
      Tree.addsAt_append (tracks.standing opening isOpening location named)
        message.fileLine
    have line :
        textAt place [(location, message.fileLine)] =
          if place = location then message.fileLine else "" := by
      by_cases isThere : location = place
      · simp [textAt, isThere]
      · simp [textAt, isThere, Ne.symm isThere]
    rw [same, addition, Option.toList_some, line]
    exact adds.contentAt place

/-- Every file is what it was, followed by what was added to it. -/
theorem Tracks.contentAt_after
    (tracks : loggers.Tracks directory earlier) (opens : loggers.Opens acts)
    (place : Location) :
    (loggers.after acts).registry.files.contentAt place =
      (loggers.registry.files.contentAt place).append
        (textAt place (additions directory earlier acts)) := by
  induction acts generalizing loggers earlier with
  | nil => exact (Content.append_empty _).symm
  | cons act later induction =>
      have further := induction (tracks.perform opens).1 (tracks.perform opens).2
      cases act with
      | opens opening =>
          rw [(tracks.installs opens.1).contentAt] at further
          exact further
      | gives message =>
          rw [tracks.contentAt_message, Content.append_append, ← textAt_append]
            at further
          exact further

/-- Where no opening names a log file, nothing changes. -/
theorem Tracks.get?_after
    (tracks : loggers.Tracks directory earlier) (opens : loggers.Opens acts)
    (unnamed :
      ∀ opening ∈ openings (earlier ++ acts),
        opening.place? directory ≠ some place) :
    (loggers.after acts).registry.files.get? place =
      loggers.registry.files.get? place := by
  induction acts generalizing loggers earlier with
  | nil => rfl
  | cons act later induction =>
      rw [← List.singleton_append, ← List.append_assoc] at unnamed
      have further :=
        induction (tracks.perform opens).1 (tracks.perform opens).2 unnamed
      refine further.trans ?_
      cases act with
      | opens opening =>
          have installs := tracks.installs opens.1
          cases named : opening.place? directory with
          | none => rw [installs.unchanged named]
          | some location =>
              refine (installs.adds location named).elsewhere place ?_
              rintro rfl
              refine unnamed opening ?_ named
              simp [openings, Act.opening?]
      | gives message =>
          rcases tracks.message_cases message with
            ⟨_, same⟩ | ⟨opening, isOpening, location, named, _, same⟩
          · rw [same]
          · have adds :=
              Tree.addsAt_append
                (tracks.standing opening isOpening location named)
                message.fileLine
            rw [same]
            refine adds.elsewhere place ?_
            rintro rfl
            refine unnamed opening ?_ named
            rw [openings_append, openings_append_message]
            exact List.mem_append_left _ isOpening

theorem ruling?_append
    {slot : String} {later : List Act}
    (areOthers :
      ∀ opening ∈ openings later,
        opening.slot ≠ slot ∧
          ∀ own,
            inSlot? slot earlier = some own →
              Registry.channelName opening.name ≠
                Registry.channelName own.name) :
    ruling? slot (earlier ++ later) = ruling? slot earlier := by
  have sameSlot : inSlot? slot (earlier ++ later) = inSlot? slot earlier :=
    latest?_append fun opening member =>
      decide_eq_false (areOthers opening member).1
  rw [ruling?, ruling?, sameSlot]
  cases own : inSlot? slot earlier with
  | none => rfl
  | some opening =>
      exact
        latest?_append fun other member =>
          decide_eq_false ((areOthers other member).2 opening own)

/-- The text that a message prints is decided by the opening that rules over its slot. -/
theorem Tracks.printed
    (tracks : loggers.Tracks directory earlier)
    (rules : ruling? message.slot earlier = some opening) :
    (loggers.perform (.gives message)).1 =
      .ok
        (if Level.threshold opening.isVerbose ≤ message.method.level then
          message.consoleLine opening.isVerbose
        else
          "") := by
  rw [tracks.perform_message rules]
  split_ifs <;> rfl

/--
After any openings that succeed and any messages, a message to a slot is one line on the
console if it is not below the threshold of the last opening for the name of the logger
there, and nothing otherwise.  Openings in other slots for other names, and messages,
do not change that.
-/
theorem message_prints_at_most_one_line
    (files : Tree) (acts : List Act) (opens : (fresh files).Opens acts)
    (message : Message) :
    (∀ own,
        inSlot? message.slot acts = some own →
          ∃ latest,
            forName? own.name acts = some latest ∧
              (((fresh files).after acts).perform (.gives message)).1 =
                .ok
                  (if Level.threshold latest.isVerbose ≤
                      message.method.level then
                    message.consoleLine latest.isVerbose
                  else
                    "")) ∧
      ∀ later,
        ((fresh files).after acts).Opens later →
          (∀ opening ∈ openings later,
            opening.slot ≠ message.slot ∧
              ∀ own,
                inSlot? message.slot acts = some own →
                  Registry.channelName opening.name ≠
                    Registry.channelName own.name) →
            ((((fresh files).after acts).after later).perform
                (.gives message)).1 =
              (((fresh files).after acts).perform (.gives message)).1 := by
  have tracks := (tracks_fresh files).after opens
  rw [List.nil_append] at tracks
  refine ⟨?_, ?_⟩
  · intro own isKept
    obtain ⟨latest, rules⟩ := exists_ruling? isKept
    refine ⟨latest, ?_, tracks.printed rules⟩
    rwa [ruling?, isKept] at rules
  · intro later opensLater areOthers
    have tracksLater := tracks.after opensLater
    have sameRule := ruling?_append areOthers
    cases rules : ruling? message.slot acts with
    | some opening =>
        rw [rules] at sameRule
        rw [tracksLater.printed sameRule, tracks.printed rules]
    | none =>
        have isEmpty : inSlot? message.slot acts = none := by
          by_contra isKept
          obtain ⟨own, isKept⟩ := Option.ne_none_iff_exists'.1 isKept
          obtain ⟨latest, isRuled⟩ := exists_ruling? isKept
          rw [isRuled] at rules
          cases rules
        have isEmptyLater :
            inSlot? message.slot (acts ++ later) = none := by
          rw [← isEmpty]
          exact
            latest?_append fun opening member =>
              decide_eq_false (areOthers opening member).1
        rw [tracksLater.perform_message_of_none isEmptyLater,
          tracks.perform_message_of_none isEmpty]

/-- A home with a log file from before. -/
def homeWithLog : Tree where
  entries :=
    [(["home"], .directory), (["home", "run.log"], .file (.text "old\n"))]
  directory := ["home"]

/-- A logger with the log file from before. -/
def toolWithLog (isVerbose : Bool) : Opening where
  slot := "a"
  name := "tool"
  isVerbose := isVerbose
  file := some "run.log"

/-- A logger, one below it that is verbose, and the first one again with a log file. -/
def reopened : List Act :=
  [.opens { slot := "a", name := "tool", isVerbose := true },
    .opens { slot := "b", name := "tool.part", isVerbose := true },
    .opens
      { slot := "c", name := "tool", isVerbose := false
        file := some "run.log" }]

/-- A message at noon to a console that is no terminal. -/
def atNoon (slot : String) (method : Method) (text : String) : Message :=
  ⟨slot, method, text, false, ⟨⟨2001, 2, 3⟩, 12, 0, 0, 0, none⟩⟩

/-- The first slot is ruled by the opening in the last one, which is not verbose. -/
theorem reopened_logger_prints_one_line :
    (fresh homeWithLog).Opens reopened ∧
      (((fresh homeWithLog).after reopened).perform
          (.gives (atNoon "a" .info "100%"))).1 =
        .ok "[INFO] 100%\n" ∧
      (((fresh homeWithLog).after reopened).perform
          (.gives (atNoon "a" .debug "100%"))).1 =
        .ok "" := by
  have opens : (fresh homeWithLog).Opens reopened := ⟨rfl, rfl, rfl, trivial⟩
  refine ⟨opens, ?_, ?_⟩
  · obtain ⟨latest, isLatest, prints⟩ :=
      (message_prints_at_most_one_line homeWithLog reopened opens
        (atNoon "a" .info "100%")).1 _ rfl
    cases isLatest
    rw [prints]
    decide +kernel
  · obtain ⟨latest, isLatest, prints⟩ :=
      (message_prints_at_most_one_line homeWithLog reopened opens
        (atNoon "a" .debug "100%")).1 _ rfl
    cases isLatest
    rw [prints]
    decide +kernel

/--
After any openings that succeed and any messages, the file at a place that an opening
named is what it was at first, or empty where none was, followed by the lines of the
messages that were heard while the last opening for the name of their logger named it.
Where no opening named a file, all is as it was.
-/
theorem log_files_hold_lines_in_order
    (files : Tree) (acts : List Act) (opens : (fresh files).Opens acts)
    (place : Location) :
    ((∃ opening ∈ openings acts,
        opening.place? files.directory = some place) →
      ((fresh files).after acts).registry.files.get? place =
        some
          (.file
            ((files.contentAt place).append
              (textAt place (additions files.directory [] acts))))) ∧
      ((∀ opening ∈ openings acts,
          opening.place? files.directory ≠ some place) →
        ((fresh files).after acts).registry.files.get? place =
          files.get? place) := by
  have tracks := (tracks_fresh files).after opens
  rw [List.nil_append] at tracks
  refine ⟨?_, ?_⟩
  · rintro ⟨opening, member, named⟩
    have stands := tracks.standing opening member place named
    rw [Tree.IsFile, (tracks_fresh files).contentAt_after opens] at stands
    exact stands
  · intro unnamed
    exact (tracks_fresh files).get?_after opens unnamed

/-- Two loggers that share a log file, of which the second one leaves it again. -/
def sharedLog : List Act :=
  [.opens
      { slot := "a", name := "tool", isVerbose := false
        file := some "run.log" },
    .opens
      { slot := "b", name := "tool.part", isVerbose := true
        file := some "./run.log" },
    .gives (atNoon "b" .debug "one"),
    .gives (atNoon "a" .debug "unheard"),
    .gives (atNoon "a" .error "two"),
    .opens { slot := "c", name := "tool.part", isVerbose := true },
    .gives (atNoon "b" .error "not here")]

theorem shared_log_holds_lines_in_order :
    (fresh homeWithLog).Opens sharedLog ∧
      ((fresh homeWithLog).after sharedLog).registry.files.get?
          ["home", "run.log"] =
        some
          (.file
            (.text
              ("old\n2001-02-03 12:00:00 [DEBUG] one\n" ++
                "2001-02-03 12:00:00 [ERROR] two\n"))) := by
  have opens : (fresh homeWithLog).Opens sharedLog :=
    ⟨rfl, rfl, rfl, trivial⟩
  refine ⟨opens, ?_⟩
  have holds :=
    (log_files_hold_lines_in_order homeWithLog sharedLog opens
      ["home", "run.log"]).1
  rw [holds ⟨_, List.mem_cons_self, rfl⟩]
  decide +kernel

end Loggers

end NativeDeps.Logging
