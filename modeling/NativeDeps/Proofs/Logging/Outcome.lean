import NativeDeps.Proofs.Logging.Loggers

/-!
# Outcomes

What is done with loggers goes on when an opening fails, so a run is more than its
successful openings.  One thing that is done has one of five outcomes, and each of them says
all that has changed.

Whatever is done, a logger that is kept has an opened channel, and if that has a log file,
the file stands.  From this every later message can be told.
-/

namespace NativeDeps.Logging.Loggers

open Files

/-- What doing one thing prints or why it fails, and the loggers after it. -/
inductive Outcome (loggers : Loggers) :
    Act → Except Failure String → Loggers → Prop
  | opened {opening : Opening} {next : Loggers}
      (installs :
        loggers.Installs loggers.registry.files.directory opening next) :
      Outcome loggers (.opens opening) (.ok "") next
  | refused {opening : Opening} (failure : Failure) :
      Outcome loggers (.opens opening) (.error failure)
        (loggers.withoutLog opening)
  | absent {message : Message}
      (free : loggers.slots.lookup message.slot = none) :
      Outcome loggers (.gives message) (.error .absent) loggers
  | heard {message : Message} {name : Spelling} {isVerbose : Bool}
      {file : Option Location}
      (kept : loggers.slots.lookup message.slot = some name)
      (has : loggers.registry.channel? name = some (.opened isVerbose file))
      (stands :
        ∀ place, file = some place → loggers.registry.files.IsFile place)
      (isHeard : Level.threshold isVerbose ≤ message.method.level) :
      Outcome loggers (.gives message) (.ok (message.consoleLine isVerbose))
        { loggers with
          registry := loggers.registry.addLine message.fileLine file }
  | unheard {message : Message} {name : Spelling} {isVerbose : Bool}
      {file : Option Location}
      (kept : loggers.slots.lookup message.slot = some name)
      (has : loggers.registry.channel? name = some (.opened isVerbose file))
      (isBelow : ¬ Level.threshold isVerbose ≤ message.method.level) :
      Outcome loggers (.gives message) (.ok "") loggers

/-- Every logger that is kept has an opened channel, and the log file of that stands. -/
def IsSound (loggers : Loggers) : Prop :=
  ∀ slot name,
    loggers.slots.lookup slot = some name →
      ∃ isVerbose file,
        loggers.registry.channel? name = some (.opened isVerbose file) ∧
          ∀ place, file = some place → loggers.registry.files.IsFile place

variable {loggers next : Loggers} {act : Act} {acts : List Act}
  {result : Except Failure String} {opening : Opening} {place : Location}

/-- What was printed, or why it failed, for one thing after the other. -/
def results (loggers : Loggers) : List Act → List (Except Failure String)
  | [] => []
  | act :: later =>
      (loggers.perform act).1 :: (loggers.perform act).2.results later

theorem isSound_fresh (files : Tree) : (fresh files).IsSound :=
  fun _ _ kept => nomatch kept

theorem IsSound.outcome_perform (sound : loggers.IsSound) (act : Act) :
    loggers.Outcome act (loggers.perform act).1 (loggers.perform act).2 := by
  cases act with
  | opens opening =>
      have installs :
          (loggers.perform (.opens opening)).1 = .ok "" →
            loggers.Installs loggers.registry.files.directory opening
              (loggers.perform (.opens opening)).2 :=
        installs_of_perform
      rw [perform_opening] at installs ⊢
      cases isOpen : Registry.openLog loggers.registry.files opening.file with
      | error failure => exact .refused failure
      | ok result =>
          rw [isOpen] at installs
          exact .opened (installs rfl)
  | gives message =>
      cases kept : loggers.slots.lookup message.slot with
      | none =>
          rw [perform_message_of_free kept]
          exact .absent kept
      | some name =>
          obtain ⟨isVerbose, file, has, stands⟩ := sound _ _ kept
          rw [perform_message_of_channel kept has]
          split_ifs with isHeard
          · exact .heard kept has stands isHeard
          · exact .unheard kept has isHeard

theorem Installs.files_cases
    {directory : Location}
    (installs : loggers.Installs directory opening next) :
    next.registry.files = loggers.registry.files ∨
      ∃ place text,
        loggers.registry.files.AddsAt place text next.registry.files := by
  cases named : opening.place? directory with
  | none => exact .inl (installs.unchanged named)
  | some place => exact .inr ⟨place, "", installs.adds place named⟩

namespace Outcome

/-- Nothing that is done changes more than one file, and that by adding to it. -/
theorem files_cases (outcome : loggers.Outcome act result next) :
    next.registry.files = loggers.registry.files ∨
      ∃ place text,
        loggers.registry.files.AddsAt place text next.registry.files := by
  cases outcome with
  | opened installs => exact installs.files_cases
  | refused => exact .inl rfl
  | absent => exact .inl rfl
  | unheard => exact .inl rfl
  | @heard _ _ _ file _ _ stands _ =>
      cases file with
      | none => exact .inl rfl
      | some place =>
          exact .inr ⟨place, _, Tree.addsAt_append (stands place rfl) _⟩

theorem isFile
    (outcome : loggers.Outcome act result next)
    (isFile : loggers.registry.files.IsFile place) :
    next.registry.files.IsFile place := by
  rcases outcome.files_cases with same | ⟨_, _, adds⟩
  · rwa [same]
  · exact adds.isFile (.inl isFile)

theorem directory (outcome : loggers.Outcome act result next) :
    next.registry.files.directory = loggers.registry.files.directory := by
  rcases outcome.files_cases with same | ⟨_, _, adds⟩
  · rw [same]
  · exact adds.directory

/-- Only a successful opening changes what is kept, and that in its own slot. -/
theorem slot_cases
    (outcome : loggers.Outcome act result next) (slot : String) :
    next.slots.lookup slot = loggers.slots.lookup slot ∨
      ∃ opening,
        act = .opens opening ∧
          opening.slot = slot ∧
          next.slots.lookup slot = some opening.name := by
  cases outcome with
  | @opened opening _ installs =>
      rw [installs.slots, lookup_slots_cons]
      split_ifs with isSlot
      · exact .inr ⟨opening, rfl, isSlot, rfl⟩
      · exact .inl rfl
  | refused => exact .inl rfl
  | absent => exact .inl rfl
  | heard => exact .inl rfl
  | unheard => exact .inl rfl

/-- Only an opening changes a channel, and that of its own name. -/
theorem channel_cases
    (outcome : loggers.Outcome act result next) (name : Spelling) :
    (next.registry.channel? name = loggers.registry.channel? name ∧
        ∀ opening,
          act = .opens opening →
            Registry.channelName name ≠
              Registry.channelName opening.name) ∨
      ∃ opening file,
        act = .opens opening ∧
          Registry.channelName name = Registry.channelName opening.name ∧
          next.registry.channel? name =
            some (.opened opening.isVerbose file) ∧
          ∀ place, file = some place → next.registry.files.IsFile place := by
  cases outcome with
  | @opened opening _ installs =>
      rw [installs.channels]
      split_ifs with isNamed
      · refine .inr ⟨opening, _, rfl, isNamed, rfl, ?_⟩
        intro place named
        exact (installs.adds place named).isFile (.inr rfl)
      · refine .inl ⟨rfl, ?_⟩
        rintro _ ⟨⟩
        exact isNamed
  | @refused opening _ =>
      rw [channel?_withoutLog]
      split_ifs with isNamed
      · exact .inr ⟨opening, none, rfl, isNamed, rfl, nofun⟩
      · refine .inl ⟨rfl, ?_⟩
        rintro _ ⟨⟩
        exact isNamed
  | absent => exact .inl ⟨rfl, nofun⟩
  | heard => exact .inl ⟨Registry.channel?_addLine _ _ _ _, nofun⟩
  | unheard => exact .inl ⟨rfl, nofun⟩

end Outcome

/-- What is done keeps loggers sound, be it an opening that fails. -/
theorem IsSound.perform (sound : loggers.IsSound) (act : Act) :
    (loggers.perform act).2.IsSound := by
  have outcome := sound.outcome_perform act
  intro slot name kept
  rcases outcome.channel_cases name with
    ⟨sameChannel, isOther⟩ | ⟨opening, file, _, _, has, stands⟩
  · rcases outcome.slot_cases slot with
      sameSlot | ⟨opening, isOpening, _, isKept⟩
    · rw [sameSlot] at kept
      obtain ⟨isVerbose, file, has, stands⟩ := sound slot name kept
      refine ⟨isVerbose, file, sameChannel.trans has, ?_⟩
      intro place named
      exact outcome.isFile (stands place named)
    · rw [isKept] at kept
      cases kept
      exact absurd rfl (isOther opening isOpening)
  · exact ⟨opening.isVerbose, file, has, stands⟩

/-- Whatever is done, the loggers stay sound. -/
theorem IsSound.after (sound : loggers.IsSound) (acts : List Act) :
    (loggers.after acts).IsSound := by
  induction acts generalizing loggers with
  | nil => exact sound
  | cons act later induction => exact induction (sound.perform act)

theorem IsSound.directory_after (sound : loggers.IsSound) (acts : List Act) :
    (loggers.after acts).registry.files.directory =
      loggers.registry.files.directory := by
  induction acts generalizing loggers with
  | nil => rfl
  | cons act later induction =>
      have kept := (sound.outcome_perform act).directory
      exact (induction (sound.perform act)).trans kept

theorem isSound_after_fresh (files : Tree) (acts : List Act) :
    ((fresh files).after acts).IsSound :=
  (isSound_fresh files).after acts

theorem directory_after_fresh (files : Tree) (acts : List Act) :
    ((fresh files).after acts).registry.files.directory = files.directory :=
  (isSound_fresh files).directory_after acts

end NativeDeps.Logging.Loggers
