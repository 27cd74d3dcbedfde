import Mathlib.Tactic.SplitIfs
import NativeDeps.CommandLine

/-!
# The manner of a request

Two flags say nothing about what is asked for, only about the manner: whether much is
told, and whether the request is meant.  What a command line asks for is read in the same
way whatever has been said about the manner, so these flags can be left out of it.
-/

namespace NativeDeps.CommandLine

/-- The same choices, to be followed in another manner. -/
def Choices.inManner (choices : Choices) (isVerbose isDryRun : Bool) : Choices :=
  { choices with isVerbose := isVerbose, isDryRun := isDryRun }

/-- The same request, without a word about the manner. -/
def Request.plain (request : Request) : Request :=
  { request with choices := request.choices.inManner false false }

def Wish.plain : Wish → Wish
  | .help => .help
  | .request asked => .request asked.plain

/-- What a command line comes to, without a word about the manner. -/
def plainly (result : Except Fault Wish) : Except Fault Wish :=
  result.map Wish.plain

namespace Draft

/-- The same draft, with something else said about the manner. -/
def inManner (draft : Draft) (isVerbose isDryRun : Bool) : Draft :=
  { draft with choices := draft.choices.inManner isVerbose isDryRun }

variable (draft : Draft) (isVerbose isDryRun : Bool)

@[simp]
theorem command_inManner :
    (draft.inManner isVerbose isDryRun).command = draft.command :=
  rfl

@[simp]
theorem addOther_inManner (argument : String) :
    (draft.inManner isVerbose isDryRun).addOther argument =
      (draft.addOther argument).inManner isVerbose isDryRun :=
  rfl

@[simp]
theorem takeCommand_inManner (word : String) :
    (draft.inManner isVerbose isDryRun).takeCommand word =
      (draft.takeCommand word).map (·.inManner isVerbose isDryRun) := by
  rw [takeCommand, takeCommand]
  cases Command.ofName? word <;> rfl

@[simp]
theorem takeValue_inManner (flag : Flag) (value : Option String) :
    (draft.inManner isVerbose isDryRun).takeValue flag value =
      (draft.takeValue flag value).map (·.inManner isVerbose isDryRun) := by
  cases flag with
  | provisioner =>
      cases value with
      | none => rfl
      | some name =>
          simp only [takeValue]
          split_ifs <;> rfl
  | _ => rfl

/-- Flags that are turned on may change the manner, but not what depends on it. -/
theorem exists_foldlM_inManner (flags : List Flag) :
    ∃ wasVerbose wasDryRun,
      flags.foldlM turnOn (draft.inManner isVerbose isDryRun) =
        (flags.foldlM turnOn draft).map
          (·.inManner wasVerbose wasDryRun) := by
  induction flags generalizing draft isVerbose isDryRun with
  | nil => exact ⟨isVerbose, isDryRun, rfl⟩
  | cons flag rest induction =>
      rcases draft with ⟨command, choices, others⟩
      cases flag with
      | help => exact ⟨isVerbose, isDryRun, rfl⟩
      | verbose =>
          exact
            induction ⟨command, { choices with isVerbose := true }, others⟩
              true isDryRun
      | dryRun =>
          exact
            induction ⟨command, { choices with isDryRun := true }, others⟩
              isVerbose true
      | json =>
          exact
            induction ⟨command, { choices with isJson := true }, others⟩
              isVerbose isDryRun
      | _ => exact induction _ isVerbose isDryRun

theorem plainly_finish :
    plainly (draft.inManner isVerbose isDryRun).finish =
      plainly draft.finish := by
  rcases draft with ⟨_ | command, choices, others⟩
  · rfl
  · cases others <;> rfl

/-- A marker before anything that is not plain belongs to nothing. -/
theorem consume_marker
    {rest : List Word}
    (noPlain : ∀ text others, rest = Word.plain text :: others → False) :
    draft.consume (.marker :: rest) = (draft.addOther "--").consume rest := by
  rw [consume]
  exact noPlain

/-- The first plain argument is the command, and a later one belongs to nothing. -/
theorem consume_plain
    (text : String) {rest : List Word}
    (noMarker : ∀ others, rest = Word.marker :: others → False) :
    draft.consume (.plain text :: rest) =
      if draft.command.isNone then
        match draft.takeCommand text with
        | .error fault => .error fault
        | .ok next => next.consume rest
      else
        (draft.addOther text).consume rest := by
  cases rest with
  | nil => rfl
  | cons word others =>
      cases word with
      | marker => exact (noMarker others rfl).elim
      | _ => rfl

/-- A flag without a value is turned on, with those that are joined to it. -/
theorem consume_flag
    {flag : Flag} (takesNone : ¬flag.takesValue = true) (isLong : Bool)
    (attached : Option String) (rest : List Word) :
    draft.consume (.flag flag isLong attached :: rest) =
      match flagsOf flag isLong attached with
      | .error fault => .error fault
      | .ok flags =>
          match flags.foldlM turnOn draft with
          | none => .ok .help
          | some next => next.consume rest := by
  rw [consume.eq_def]
  exact if_neg takesNone

/-- The rest of a command line asks for the same, whatever was said about the manner. -/
theorem plainly_consume (words : List Word) :
    plainly ((draft.inManner isVerbose isDryRun).consume words) =
      plainly (draft.consume words) := by
  fun_induction consume draft words generalizing isVerbose isDryRun with
  | case1 draft => rw [consume, plainly_finish]
  | case2 draft text rest induction =>
      rw [consume, addOther_inManner]
      exact induction _ _
  | case3 draft text rest isFirst fault taken
  | case7 draft text rest isFirst fault taken =>
      rw [consume, command_inManner, if_pos isFirst, takeCommand_inManner,
        taken]
      rfl
  | case4 draft text rest isFirst next taken induction
  | case8 draft text rest isFirst next taken induction =>
      rw [consume, command_inManner, if_pos isFirst, takeCommand_inManner,
        taken]
      exact induction _ _
  | case5 draft text rest isLater induction =>
      rw [consume, command_inManner, if_neg isLater]
      exact induction _ _
  | case6 draft rest noPlain induction =>
      rw [consume_marker _ noPlain, addOther_inManner]
      exact induction _ _
  | case9 draft text rest isLater induction =>
      conv => lhs; rw [consume]
      rw [command_inManner, if_neg isLater]
      exact induction _ _
  | case10 draft text rest noMarker isFirst fault taken =>
      rw [consume_plain _ _ noMarker, command_inManner, if_pos isFirst,
        takeCommand_inManner, taken]
      rfl
  | case11 draft text rest noMarker isFirst next taken induction =>
      rw [consume_plain _ _ noMarker, command_inManner, if_pos isFirst,
        takeCommand_inManner, taken]
      exact induction _ _
  | case12 draft text rest noMarker isLater induction =>
      rw [consume_plain _ _ noMarker, command_inManner, if_neg isLater]
      exact induction _ _
  | case13 draft flag isLong takesValue value rest fault taken
  | case15 draft flag isLong takesValue value rest fault taken =>
      rw [consume, if_pos takesValue, takeValue_inManner, taken]
      rfl
  | case14 draft flag isLong takesValue value rest next taken induction
  | case16 draft flag isLong takesValue value rest next taken induction =>
      rw [consume, if_pos takesValue, takeValue_inManner, taken]
      exact induction _ _
  | case17 draft flag isLong rest takesValue noPlain =>
      rw [consume, if_pos takesValue]
      exact noPlain
  | case18 draft flag isLong attached rest takesNone fault joins =>
      rw [consume_flag _ takesNone, joins]
  | case19 draft flag isLong attached rest takesNone flags joins asksHelp =>
      obtain ⟨wasVerbose, wasDryRun, turned⟩ :=
        draft.exists_foldlM_inManner isVerbose isDryRun flags
      rw [asksHelp] at turned
      rw [consume_flag _ takesNone, joins]
      dsimp only
      rw [turned]
      rfl
  | case20 draft flag isLong attached rest takesNone flags joins next turned
      induction =>
      obtain ⟨wasVerbose, wasDryRun, others⟩ :=
        draft.exists_foldlM_inManner isVerbose isDryRun flags
      rw [turned] at others
      rw [consume_flag _ takesNone, joins]
      dsimp only
      rw [others]
      exact induction _ _

end Draft

/-- Two command lines ask for the same, or have the same fault, in whatever manner. -/
def AskAlike (arguments others : List String) : Prop :=
  plainly (read arguments) = plainly (read others)

/-- How the flags are spelled that say something about the manner. -/
def mannerSpellings : List String :=
  Flag.verbose.spellings ++ Flag.dryRun.spellings

/-- A flag about the manner can stand before everything else, or be left out. -/
theorem askAlike_cons
    {spelling : String} (isManner : spelling ∈ mannerSpellings)
    (arguments : List String) :
    AskAlike (spelling :: arguments) arguments := by
  have classified :
      ∀ spelling ∈ mannerSpellings,
        spelling ≠ "--" ∧
          ∃ isVerbose isDryRun flag isLong,
            Word.ofArgument spelling = .ok (.flag flag isLong none) ∧
              flag.takesValue = false ∧
              Draft.turnOn {} flag =
                some (({} : Draft).inManner isVerbose isDryRun) := by
    intro spelling member
    simp only [mannerSpellings, Flag.spellings, List.cons_append,
      List.nil_append, List.mem_cons, List.not_mem_nil, or_false] at member
    rcases member with rfl | rfl | rfl
    · exact ⟨by decide, true, false, .verbose, true, rfl, rfl, rfl⟩
    · exact ⟨by decide, true, false, .verbose, false, rfl, rfl, rfl⟩
    · exact ⟨by decide, false, true, .dryRun, true, rfl, rfl, rfl⟩
  obtain
    ⟨noMarker, isVerbose, isDryRun, flag, isLong, isFlag, takesNone, turned⟩ :=
    classified spelling isManner
  rw [AskAlike, read, read, Word.ofArguments, if_neg noMarker, isFlag]
  cases Word.ofArguments arguments with
  | error fault => rfl
  | ok words =>
      show plainly (Draft.consume {} (_ :: words)) = _
      rw [Draft.consume_flag _ (Bool.eq_false_iff.1 takesNone)]
      dsimp only [Draft.flagsOf]
      rw [List.foldlM_cons, turned]
      exact Draft.plainly_consume {} isVerbose isDryRun words

theorem askAlike_append
    {flags : List String} (areManner : ∀ flag ∈ flags, flag ∈ mannerSpellings)
    (arguments : List String) : AskAlike (flags ++ arguments) arguments := by
  induction flags with
  | nil => rfl
  | cons flag rest induction =>
      have first :=
        askAlike_cons (areManner flag List.mem_cons_self) (rest ++ arguments)
      exact
        first.trans
          (induction fun other member =>
            areManner other (List.mem_cons_of_mem _ member))

end NativeDeps.CommandLine
