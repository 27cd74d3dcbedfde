import NativeDeps.Proofs.Logging.Registry

/-!
# Loggers in slots

Loggers are opened and kept in slots, and messages are given to the logger in a slot.
What becomes of a message depends on two openings alone: the last one in its slot gives
the name of the logger, and the last one for that name, in whatever slot, says what is
heard, how it is shown, and which file it is added to.

That the registry stands for these openings is the invariant of every step.
-/

namespace NativeDeps.Logging

open Files

/-- The ways to give a message to a logger. -/
inductive Method
  | debug
  | info
  | success
  | warning
  | error
deriving Repr, DecidableEq

def Method.level : Method → Level
  | .debug => .debug
  | .info => .info
  | .success => .success
  | .warning => .warning
  | .error => .error

/-- A logger that is opened, and the slot in which it is kept. -/
structure Opening where
  slot : String
  name : Spelling
  isVerbose : Bool
  file : Option Spelling := none
deriving Repr, DecidableEq

namespace Opening

/-- The place of the log file, if there is one. -/
def place? (opening : Opening) (directory : Location) : Option Location :=
  logPlace? directory opening.file

/-- The channel that the opening leaves behind. -/
def channel (opening : Opening) (directory : Location) : Channel :=
  .opened opening.isVerbose (opening.place? directory)

end Opening

/-- A message to the logger in a slot, and when and to what kind of console it is given. -/
structure Message where
  slot : String
  method : Method
  text : String
  isTerminal : Bool
  now : Calendar.Moment
deriving Repr, DecidableEq

namespace Message

def record (message : Message) : Record where
  levelName := message.method.level.name
  message := .text message.text

/-- The line of a message on the console. -/
def consoleLine (message : Message) (isVerbose : Bool) : String :=
  Logging.consoleLine isVerbose message.isTerminal message.now
    message.method.level.name message.text

/-- The line of a message in a log file. -/
def fileLine (message : Message) : String :=
  Logging.fileLine message.now message.method.level.name message.text

theorem consoleLine_ne_empty (message : Message) (isVerbose : Bool) :
    message.consoleLine isVerbose ≠ "" :=
  Logging.consoleLine_ne_empty _ _ _ _ _

theorem fileLine_ne_empty (message : Message) : message.fileLine ≠ "" :=
  Logging.fileLine_ne_empty _ _ _

end Message

/-- What can be done with loggers. -/
inductive Act
  | opens (opening : Opening)
  | gives (message : Message)
deriving Repr, DecidableEq

def Act.opening? : Act → Option Opening
  | .opens opening => some opening
  | .gives _ => none

/-- The loggers in slots, by their names, and what the names stand for. -/
structure Loggers where
  registry : Registry
  slots : List (String × Spelling)
deriving Repr

namespace Loggers

/-- No loggers yet. -/
def fresh (files : Tree) : Loggers :=
  ⟨⟨[], files⟩, []⟩

/--
Do one thing: what it prints or why it fails, and the loggers after it.  A logger that
cannot be opened is not kept.
-/
def perform (loggers : Loggers) : Act → Except Failure String × Loggers
  | .opens opening =>
      match loggers.registry.openWith opening.name opening.isVerbose
          (.ofSpellingOrNull opening.file) with
      | (.ok (), registry) =>
          (.ok "", ⟨registry, (opening.slot, opening.name) :: loggers.slots⟩)
      | (.error failure, registry) =>
          (.error failure, { loggers with registry := registry })
  | .gives message =>
      match loggers.slots.lookup message.slot with
      | none => (.error .absent, loggers)
      | some name =>
          let (text, registry) :=
            loggers.registry.send message.isTerminal message.now name
              message.method.level message.record
          (.ok text, { loggers with registry := registry })

/-- The loggers after some things were done, one after the other. -/
def after (loggers : Loggers) : List Act → Loggers
  | [] => loggers
  | act :: later => (loggers.perform act).2.after later

/-- Whether every logger that is to be opened can be opened. -/
def Opens (loggers : Loggers) : List Act → Prop
  | [] => True
  | .opens opening :: later =>
      (loggers.perform (.opens opening)).1 = .ok "" ∧
        (loggers.perform (.opens opening)).2.Opens later
  | .gives message :: later =>
      (loggers.perform (.gives message)).2.Opens later

end Loggers

/-- The openings among what was done, the first one first. -/
def openings (acts : List Act) : List Opening :=
  acts.filterMap Act.opening?

/-- The last opening of some kind. -/
def latest? (isMeant : Opening → Bool) (acts : List Act) : Option Opening :=
  (openings acts).reverse.find? isMeant

/-- The logger that is kept in a slot. -/
def inSlot? (slot : String) (acts : List Act) : Option Opening :=
  latest? (·.slot = slot) acts

/-- The opening that a name stands for, whatever the slot of its logger. -/
def forName? (name : Spelling) (acts : List Act) : Option Opening :=
  latest?
    (fun opening =>
      Registry.channelName opening.name = Registry.channelName name)
    acts

/-- The opening that rules over the messages to a slot. -/
def ruling? (slot : String) (acts : List Act) : Option Opening :=
  (inSlot? slot acts).bind fun own => forName? own.name acts

section

variable {acts : List Act} {opening : Opening} {isMeant : Opening → Bool}

theorem openings_append (acts others : List Act) :
    openings (acts ++ others) = openings acts ++ openings others :=
  List.filterMap_append

theorem openings_append_opening (acts : List Act) (opening : Opening) :
    openings (acts ++ [.opens opening]) = openings acts ++ [opening] :=
  openings_append acts _

theorem openings_append_message (acts : List Act) (message : Message) :
    openings (acts ++ [.gives message]) = openings acts := by
  rw [openings_append]
  exact List.append_nil _

theorem openings_map_gives (messages : List Message) :
    openings (messages.map .gives) = [] := by
  rw [openings, List.filterMap_map]
  exact List.filterMap_eq_nil_iff.2 fun _ _ => rfl

theorem latest?_append_opening
    (isMeant : Opening → Bool) (acts : List Act) (opening : Opening) :
    latest? isMeant (acts ++ [.opens opening]) =
      if isMeant opening then some opening else latest? isMeant acts := by
  rw [latest?, openings_append_opening, List.reverse_concat, List.find?_cons]
  cases isMeant opening <;> rfl

theorem latest?_append_message
    (isMeant : Opening → Bool) (acts : List Act) (message : Message) :
    latest? isMeant (acts ++ [.gives message]) = latest? isMeant acts := by
  rw [latest?, openings_append_message, latest?]

theorem mem_openings_of_latest? (latest : latest? isMeant acts = some opening) :
    opening ∈ openings acts :=
  List.mem_reverse.1 (List.mem_of_find?_eq_some latest)

/-- A logger that is kept has a name, and that name stands for an opening. -/
theorem exists_ruling?
    {slot : String} (own : inSlot? slot acts = some opening) :
    ∃ latest, ruling? slot acts = some latest := by
  rw [ruling?, own]
  have isSome :
      ((openings acts).reverse.find? fun other =>
          Registry.channelName other.name =
            Registry.channelName opening.name).isSome =
        true :=
    List.find?_isSome.2
      ⟨opening, List.mem_reverse.2 (mem_openings_of_latest? own), by simp⟩
  exact Option.isSome_iff_exists.1 isSome

end

/-- The loggers stand for the openings among what was done. -/
structure Loggers.Tracks (loggers : Loggers) (directory : Location)
    (acts : List Act) : Prop where
  slots :
    ∀ slot,
      loggers.slots.lookup slot = (inSlot? slot acts).map Opening.name
  channels :
    ∀ name,
      loggers.registry.channel? name =
        (forName? name acts).map (Opening.channel · directory)
  inDirectory : loggers.registry.files.directory = directory
  standing :
    ∀ opening ∈ openings acts,
      ∀ place,
        opening.place? directory = some place →
          loggers.registry.files.IsFile place

namespace Loggers

variable {loggers : Loggers} {directory place : Location} {acts : List Act}
  {opening : Opening} {message : Message}

theorem tracks_fresh (files : Tree) :
    (fresh files).Tracks files.directory [] :=
  ⟨fun _ => rfl, fun _ => rfl, rfl, nofun⟩

/-- The loggers after the channel for an opening was replaced by one without a log file. -/
def withoutLog (loggers : Loggers) (opening : Opening) : Loggers :=
  { loggers with
    registry :=
      loggers.registry.setChannel opening.name
        (.opened opening.isVerbose none) }

/-- The loggers after a logger was opened and kept, with a log file at a place or none. -/
def withOpened (loggers : Loggers) (opening : Opening) (files : Tree)
    (place : Option Location) : Loggers where
  registry :=
    { loggers.registry.setChannel opening.name
        (.opened opening.isVerbose place) with
      files := files }
  slots := (opening.slot, opening.name) :: loggers.slots

theorem channel?_withoutLog
    (loggers : Loggers) (opening : Opening) (name : Spelling) :
    (loggers.withoutLog opening).registry.channel? name =
      if Registry.channelName name = Registry.channelName opening.name then
        some (.opened opening.isVerbose none)
      else
        loggers.registry.channel? name :=
  Registry.channel?_setChannel _ _ _ _

theorem channel?_withOpened
    (loggers : Loggers) (opening : Opening) (files : Tree)
    (place : Option Location) (name : Spelling) :
    (loggers.withOpened opening files place).registry.channel? name =
      if Registry.channelName name = Registry.channelName opening.name then
        some (.opened opening.isVerbose place)
      else
        loggers.registry.channel? name :=
  Registry.channel?_setChannel _ _ _ _

/-- A logger that is kept takes the place of the one in its slot. -/
theorem lookup_slots_cons
    (opening : Opening) (slots : List (String × Spelling)) (slot : String) :
    ((opening.slot, opening.name) :: slots).lookup slot =
      if opening.slot = slot then some opening.name else slots.lookup slot := by
  rw [List.lookup_cons]
  split_ifs with isSlot
  · rw [isSlot, beq_self_eq_true]
  · rw [beq_eq_false_iff_ne.2 (Ne.symm isSlot)]

/-- An opening succeeds exactly if its log file can be opened. -/
theorem perform_opening (loggers : Loggers) (opening : Opening) :
    loggers.perform (.opens opening) =
      match Registry.openLog loggers.registry.files opening.file with
      | .error failure => (.error failure, loggers.withoutLog opening)
      | .ok (files, place) =>
          (.ok "", loggers.withOpened opening files place) := by
  rw [perform, Registry.openWith_eq]
  cases Registry.openLog loggers.registry.files opening.file <;> rfl

/-- What opening a logger does to the registry and its files. -/
structure Installs (loggers : Loggers) (directory : Location)
    (opening : Opening) (after : Loggers) : Prop where
  slots : after.slots = (opening.slot, opening.name) :: loggers.slots
  channels :
    ∀ name,
      after.registry.channel? name =
        if Registry.channelName name =
            Registry.channelName opening.name then
          some (opening.channel directory)
        else
          loggers.registry.channel? name
  unchanged :
    opening.place? directory = none →
      after.registry.files = loggers.registry.files
  adds :
    ∀ place,
      opening.place? directory = some place →
        loggers.registry.files.AddsAt place "" after.registry.files

theorem installs_of_perform
    (opens : (loggers.perform (.opens opening)).1 = .ok "") :
    loggers.Installs loggers.registry.files.directory opening
      (loggers.perform (.opens opening)).2 := by
  rw [perform_opening] at opens ⊢
  cases isOpen : Registry.openLog loggers.registry.files opening.file with
  | error failure =>
      rw [isOpen] at opens
      cases opens
  | ok result =>
      rcases result with ⟨files, place⟩
      obtain ⟨rfl, unchanged, adds⟩ := Registry.eq_of_openLog isOpen
      exact ⟨rfl, channel?_withOpened _ _ _ _, unchanged, adds⟩

theorem Tracks.installs
    (tracks : loggers.Tracks directory acts)
    (opens : (loggers.perform (.opens opening)).1 = .ok "") :
    loggers.Installs directory opening
      (loggers.perform (.opens opening)).2 :=
  tracks.inDirectory ▸ installs_of_perform opens

/-- A successful opening becomes the last one in its slot and for its name. -/
theorem Tracks.append_opening
    (tracks : loggers.Tracks directory acts)
    (opens : (loggers.perform (.opens opening)).1 = .ok "") :
    (loggers.perform (.opens opening)).2.Tracks directory
      (acts ++ [.opens opening]) := by
  have installs := tracks.installs opens
  refine ⟨fun slot => ?_, fun name => ?_, ?_, ?_⟩
  · rw [installs.slots, lookup_slots_cons, inSlot?, latest?_append_opening,
      tracks.slots, inSlot?]
    by_cases isHere : opening.slot = slot <;> simp [isHere]
  · rw [installs.channels, forName?, latest?_append_opening,
      tracks.channels, forName?]
    by_cases isNamed :
        Registry.channelName opening.name = Registry.channelName name
    · simp [isNamed]
    · simp [isNamed, Ne.symm isNamed]
  · cases place : opening.place? directory with
    | none => rw [installs.unchanged place, tracks.inDirectory]
    | some location =>
        rw [(installs.adds location place).directory, tracks.inDirectory]
  · intro other member place named
    rw [openings_append_opening, List.mem_append, List.mem_singleton]
      at member
    cases own : opening.place? directory with
    | none =>
        rw [installs.unchanged own]
        rcases member with earlier | rfl
        · exact tracks.standing other earlier place named
        · rw [own] at named
          cases named
    | some location =>
        refine (installs.adds location own).isFile ?_
        rcases member with earlier | rfl
        · exact .inl (tracks.standing other earlier place named)
        · rw [own] at named
          exact .inr (Option.some.inj named).symm

/-- What a message comes to is decided by the channel of the logger in its slot. -/
theorem perform_message_of_channel
    {name : Spelling} {isVerbose : Bool} {file : Option Location}
    (kept : loggers.slots.lookup message.slot = some name)
    (has :
      loggers.registry.channel? name = some (.opened isVerbose file)) :
    loggers.perform (.gives message) =
      if Level.threshold isVerbose ≤ message.method.level then
        (.ok (message.consoleLine isVerbose),
          { loggers with
            registry := loggers.registry.addLine message.fileLine file })
      else
        (.ok "", loggers) := by
  rw [perform, kept]
  dsimp only
  split_ifs with isHeard
  · rw [Message.record, Registry.send_of_le has isHeard]
    rfl
  · rw [Registry.send_of_lt has (Int.not_le.1 isHeard)]

theorem perform_message_of_free
    (free : loggers.slots.lookup message.slot = none) :
    loggers.perform (.gives message) = (.error .absent, loggers) := by
  rw [perform, free]

/-- What a message comes to is decided by the opening that rules over its slot. -/
theorem Tracks.perform_message
    (tracks : loggers.Tracks directory acts)
    (rules : ruling? message.slot acts = some opening) :
    loggers.perform (.gives message) =
      if Level.threshold opening.isVerbose ≤ message.method.level then
        (.ok (message.consoleLine opening.isVerbose),
          { loggers with
            registry :=
              loggers.registry.addLine message.fileLine
                (opening.place? directory) })
      else
        (.ok "", loggers) := by
  obtain ⟨own, isKept, isNamed⟩ := Option.bind_eq_some_iff.1 rules
  have kept := tracks.slots message.slot
  have has := tracks.channels own.name
  rw [isKept, Option.map_some] at kept
  rw [isNamed, Option.map_some, Opening.channel] at has
  exact perform_message_of_channel kept has

theorem Tracks.perform_message_of_none
    (tracks : loggers.Tracks directory acts)
    (isEmpty : inSlot? message.slot acts = none) :
    loggers.perform (.gives message) = (.error .absent, loggers) := by
  apply perform_message_of_free
  rw [tracks.slots, isEmpty, Option.map_none]

end Loggers

/-- The place of the log file to which a message adds its line, and that line. -/
def Message.addition? (message : Message) (directory : Location)
    (acts : List Act) : Option (Location × String) := do
  let opening ← ruling? message.slot acts
  let place ← opening.place? directory
  if Level.threshold opening.isVerbose ≤ message.method.level then
    some (place, message.fileLine)
  else
    none

namespace Loggers

variable {loggers : Loggers} {directory place : Location} {acts : List Act}
  {opening : Opening} {message : Message}

/-- A message changes nothing, or it adds its line to the log file of an opening. -/
theorem Tracks.message_cases
    (tracks : loggers.Tracks directory acts) (message : Message) :
    message.addition? directory acts = none ∧
        (loggers.perform (.gives message)).2 = loggers ∨
      ∃ opening ∈ openings acts,
        ∃ place,
          opening.place? directory = some place ∧
            message.addition? directory acts =
              some (place, message.fileLine) ∧
            (loggers.perform (.gives message)).2 =
              { loggers with
                registry :=
                  loggers.registry.addLine message.fileLine (some place) } := by
  cases rules : ruling? message.slot acts with
  | none =>
      refine .inl ⟨by rw [Message.addition?, rules]; rfl, ?_⟩
      cases own : inSlot? message.slot acts with
      | none => rw [tracks.perform_message_of_none own]
      | some opening =>
          obtain ⟨latest, isRuled⟩ := exists_ruling? own
          rw [isRuled] at rules
          cases rules
  | some opening =>
      rw [tracks.perform_message rules]
      split_ifs with isHeard
      · cases named : opening.place? directory with
        | none =>
            refine .inl ⟨?_, rfl⟩
            simp [Message.addition?, rules, named]
        | some place =>
            obtain ⟨own, _, isNamed⟩ := Option.bind_eq_some_iff.1 rules
            refine
              .inr ⟨opening, mem_openings_of_latest? isNamed, place, named, ?_,
                rfl⟩
            simp [Message.addition?, rules, named, isHeard]
      · refine .inl ⟨?_, rfl⟩
        simp [Message.addition?, rules, isHeard]

theorem Tracks.append_message
    (tracks : loggers.Tracks directory acts) (message : Message) :
    (loggers.perform (.gives message)).2.Tracks directory
      (acts ++ [.gives message]) := by
  have slots :
      ∀ slot, inSlot? slot (acts ++ [.gives message]) = inSlot? slot acts :=
    fun _ => latest?_append_message _ _ _
  have names :
      ∀ name, forName? name (acts ++ [.gives message]) = forName? name acts :=
    fun _ => latest?_append_message _ _ _
  rcases tracks.message_cases message with
    ⟨_, same⟩ | ⟨opening, isOpening, place, named, _, same⟩
  · rw [same]
    refine ⟨fun slot => ?_, fun name => ?_, tracks.inDirectory, ?_⟩
    · rw [slots, tracks.slots]
    · rw [names, tracks.channels]
    · rw [openings_append_message]
      exact tracks.standing
  · have adds :=
      Tree.addsAt_append (tracks.standing opening isOpening place named)
        message.fileLine
    rw [same]
    refine ⟨fun slot => ?_, fun name => ?_, ?_, ?_⟩
    · rw [slots, tracks.slots]
    · rw [names]
      exact tracks.channels name
    · exact adds.directory.trans tracks.inDirectory
    · intro other member otherPlace otherNamed
      rw [openings_append_message] at member
      exact
        adds.isFile (.inl (tracks.standing other member otherPlace otherNamed))

/-- One thing that is done keeps the loggers standing for what was done. -/
theorem Tracks.perform
    {act : Act} {later : List Act} (tracks : loggers.Tracks directory acts)
    (opens : loggers.Opens (act :: later)) :
    (loggers.perform act).2.Tracks directory (acts ++ [act]) ∧
      (loggers.perform act).2.Opens later := by
  cases act with
  | opens opening => exact ⟨tracks.append_opening opens.1, opens.2⟩
  | gives message => exact ⟨tracks.append_message message, opens⟩

/-- Whatever is done, as long as all openings succeed, the loggers stand for them. -/
theorem Tracks.after
    {later : List Act} (tracks : loggers.Tracks directory acts)
    (opens : loggers.Opens later) :
    (loggers.after later).Tracks directory (acts ++ later) := by
  induction later generalizing loggers acts with
  | nil => rwa [List.append_nil]
  | cons act later induction =>
      obtain ⟨tracks, opens⟩ := tracks.perform opens
      have further := induction tracks opens
      rwa [List.append_assoc] at further

end Loggers

end NativeDeps.Logging
