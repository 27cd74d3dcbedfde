import Mathlib.Data.List.Basic
import NativeDeps.Proofs.PlatformTable

/-!
# What a configuration can be asked

Beside its descriptor a configuration has three sections, and a question is answered out
of one of them.  The name of a platform is brought into the form in which it is compared
before its section is looked at, so a name that has no such form is refused, whatever the
section holds.
-/

namespace NativeDeps

namespace Configuration

/-- The sections beside the environment. -/
inductive Section
  | options
  | provisioners
  | platforms
deriving DecidableEq

def Section.name : Section → String
  | .options => "options"
  | .provisioners => "provisioners"
  | .platforms => "platforms"

/-- What a configuration can be asked, beside its descriptor. -/
inductive Question
  | platforms
  | isKnown (name : Value)
  | normalize (name : Value)
  | provisioners
  | settings (name : Value)
  | option (name fallback : Value)

namespace Question

/-- The section that has the answer to a question. -/
def asked : Question → Section
  | .platforms => .platforms
  | .isKnown _ => .platforms
  | .normalize _ => .platforms
  | .provisioners => .provisioners
  | .settings _ => .provisioners
  | .option _ _ => .options

/-- The name that a question looks up among the platforms. -/
def lookedUp? : Question → Option Value
  | .isKnown name => some name
  | .normalize name => some name
  | _ => none

/-- How a question fails that comes to null. -/
def failureOfNull : Question → Failure
  | .isKnown _ => .mistyped
  | .normalize _ => .mistyped
  | _ => .unsupported

end Question

/-- The file that a section stands in. -/
def fileOf (configuration : Configuration) : Section → Value
  | .options => configuration.environment
  | .provisioners => configuration.environment
  | .platforms => configuration.platforms

def sectionFor (configuration : Configuration) (part : Section) :
    Except Failure Value :=
  sectionOf (configuration.fileOf part) part.name

/-- The answer of a configuration to a question, as one value. -/
def answer (configuration : Configuration) : Question → Except Failure Value
  | .platforms => configuration.platformNames.map .list
  | .isKnown name => (configuration.isKnown name).map .bool
  | .normalize name => configuration.normalize name
  | .provisioners => configuration.provisionerNames.map .list
  | .settings name => configuration.provisionerSettings name
  | .option name fallback => configuration.option name fallback

variable {configuration before after : Configuration} {question : Question}
  {part : Section} {name key : Value}

/-- The answer to a question depends on one section only. -/
theorem answer_congr
    (same : before.sectionFor question.asked = after.sectionFor question.asked) :
    before.answer question = after.answer question := by
  cases question with
  | platforms =>
      change before.platformSection = after.platformSection at same
      simp only [answer, platformNames, same]
  | isKnown name =>
      change before.platformSection = after.platformSection at same
      simp only [answer, isKnown, normalize, platformNames, same]
  | normalize name =>
      change before.platformSection = after.platformSection at same
      simp only [answer, normalize, same]
  | provisioners =>
      change before.provisionerSection = after.provisionerSection at same
      simp only [answer, provisionerNames, same]
  | settings name =>
      change before.provisionerSection = after.provisionerSection at same
      simp only [answer, provisionerSettings, same]
  | option name fallback =>
      change sectionOf before.environment "options" = sectionOf after.environment "options"
        at same
      simp only [answer, option, same]

/-- Whether a name has a form in which it is compared. -/
def HasKey (name key : Value) : Prop :=
  ∃ stripped, name.stripped = .ok stripped ∧ stripped.lowered = .ok key

theorem HasKey.unique {other : Value} (hasKey : HasKey name key)
    (hasOther : HasKey name other) : key = other := by
  obtain ⟨stripped, strips, lowers⟩ := hasKey
  obtain ⟨_, stripsToo, lowersToo⟩ := hasOther
  obtain rfl := Except.ok.inj (strips.symm.trans stripsToo)
  exact Except.ok.inj (lowers.symm.trans lowersToo)

/-- A text is compared without blanks around it and in lower case. -/
theorem HasKey.text {name key : String}
    (isKey : PlatformCondition.hostKey name = (key : Spelling)) :
    HasKey (.text name) (.text key) := by
  refine ⟨.ofSpelling (Spelling.strip name), ?_, ?_⟩
  · rw [← Value.ofSpelling_ofText, Value.stripped_ofSpelling]
  · rw [Value.lowered_ofSpelling, ← PlatformCondition.hostKey, isKey,
      Value.ofSpelling_ofText]

/-- A name that cannot be compared is refused before the platforms are looked at. -/
theorem exists_normalize_of_not_hasKey (noKey : ¬ ∃ key, HasKey name key) :
    ∃ failure,
      ∀ configuration : Configuration,
        configuration.normalize name = .error failure := by
  cases strips : name.stripped with
  | error failure =>
      refine ⟨failure, fun configuration => ?_⟩
      rw [normalize, strips]
      rfl
  | ok stripped =>
      cases lowers : stripped.lowered with
      | error failure =>
          refine ⟨failure, fun configuration => ?_⟩
          rw [normalize, strips]
          show (stripped.lowered >>= _) = _
          rw [lowers]
          rfl
      | ok key => exact absurd ⟨key, stripped, strips, lowers⟩ noKey

/-- Whether a question gets as far as its section. -/
def Question.ReachesSection (question : Question) : Prop :=
  ∀ name, question.lookedUp? = some name → ∃ key, HasKey name key

theorem answer_of_not_reachesSection
    (before after : Configuration) (stops : ¬ question.ReachesSection) :
    before.answer question = after.answer question := by
  have noKey :
      ∃ name, question.lookedUp? = some name ∧ ¬ ∃ key, HasKey name key := by
    simpa [Question.ReachesSection] using stops
  obtain ⟨name, looksUp, noKey⟩ := noKey
  obtain ⟨failure, refuses⟩ := exists_normalize_of_not_hasKey noKey
  cases question with
  | isKnown other =>
      obtain rfl := Option.some.inj looksUp
      simp only [answer, isKnown, refuses]
      rfl
  | normalize other =>
      obtain rfl := Option.some.inj looksUp
      simp only [answer, refuses]
  | _ => cases looksUp

theorem platformNames_of_entries
    {platforms : Value} {entries : List (Value × Value)}
    (known : configuration.platformSection = .ok platforms)
    (asked : platforms.entries = .ok entries) :
    configuration.platformNames = .ok (entries.map Prod.fst) := by
  rw [platformNames, known]
  show (platforms.entries >>= _) = _
  rw [asked]
  rfl

theorem answer_of_normalize_error
    {failure : Failure} (looksUp : question.lookedUp? = some name)
    (fails : configuration.normalize name = .error failure) :
    configuration.answer question = .error failure := by
  cases question with
  | isKnown other =>
      obtain rfl := Option.some.inj looksUp
      rw [answer, isKnown, fails]
      rfl
  | normalize other =>
      obtain rfl := Option.some.inj looksUp
      exact fails
  | _ => cases looksUp

theorem answer_of_normalize_eq
    (looksUp : question.lookedUp? = some name)
    (sameNames : before.platformNames = after.platformNames)
    (same : before.normalize name = after.normalize name) :
    before.answer question = after.answer question := by
  cases question with
  | isKnown other =>
      obtain rfl := Option.some.inj looksUp
      rw [answer, answer, isKnown, isKnown, same, sameNames]
  | normalize other =>
      obtain rfl := Option.some.inj looksUp
      exact same
  | _ => cases looksUp

end Configuration

end NativeDeps
