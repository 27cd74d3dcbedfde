import NativeDeps.Host
import NativeDeps.Proofs.Text.LowerCase
import NativeDeps.Proofs.Text.Spelling
import NativeDeps.Proofs.Validation

/-!
# The platform that is remembered

A detector is moved to other hosts, describes the host that it is on, and is asked for
the platform, in any order.  What it remembers is the platform of the host where it was
asked first, while its descriptions are always those of the host at hand.
-/

namespace NativeDeps

namespace Host

/-- The name of a platform, taken for the name of a system, names this platform again. -/
theorem platform_platform (host : Host) (machine runtime : String) :
    platform ⟨host.platform, machine, runtime⟩ = host.platform := by
  by_cases isWindows :
      Text.lower host.system = "windows" ∨
        windowsLayers.any fun layer =>
          layer.toList.isPrefixOf (Text.lower host.system).toList
  · have named : host.platform = "windows" := if_pos isWindows
    have lowered : Text.lower "windows" = "windows" := by decide
    rw [named]
    exact if_pos (.inl lowered)
  · have named : host.platform = Text.lower host.system := if_neg isWindows
    rw [named, platform, Text.lower_lower]
    exact if_neg isWindows

/-- Whether facts are those of a host. -/
structure Describes (facts : Value) (host : Host) : Prop where
  system : facts.at? [.field "os"] = some (.text host.system)
  platform : facts.at? [.field "platform"] = some (.text host.platform)
  architecture : facts.at? [.field "arch"] = some (.text host.architecture)
  machine : facts.at? [.field "machine"] = some (.text host.machine)
  runtime : facts.at? [.field "python_version"] = some (.text host.runtime)

theorem describes_facts (host : Host) : Describes host.facts host where
  system := rfl
  platform := rfl
  architecture := rfl
  machine := rfl
  runtime := rfl

end Host

namespace Detector

/-- What can be done with a detector. -/
inductive Action where
  | move (host : Host)
  | describe
  | ask
deriving Repr, DecidableEq

inductive Reply where
  | moved
  | facts (facts : Value)
  | platform (name : String)

namespace Action

/-- The host that an action moves to. -/
def host? : Action → Option Host
  | move host => some host
  | describe => none
  | ask => none

end Action

/-- The name of a platform that a reply reports. -/
def Reply.platform? : Reply → Option String
  | .moved => none
  | .facts described =>
      ((described.at? [.field "platform"]).bind Value.spelling?).bind
        Spelling.text?
  | .platform name => some name

/-- A detector that was never asked. -/
def fresh (host : Host) : Detector :=
  { host := host }

theorem fst_platform_fresh (host : Host) :
    (fresh host).platform.1 = host.platform :=
  rfl

def perform (detector : Detector) : Action → Reply × Detector
  | .move host => (.moved, detector.onHost host)
  | .describe => (.facts detector.host.facts, detector)
  | .ask => (.platform detector.platform.1, detector.platform.2)

def after (detector : Detector) : List Action → Detector
  | [] => detector
  | action :: rest => (detector.perform action).2.after rest

def replies (detector : Detector) : List Action → List Reply
  | [] => []
  | action :: rest =>
      (detector.perform action).1 :: (detector.perform action).2.replies rest

/-- The host at the end: the last one that was moved to. -/
def hostAfter (host : Host) (actions : List Action) : Host :=
  (actions.filterMap Action.host?).getLast?.getD host

/-- The host where the platform is asked for the first time. -/
def firstHost? (host : Host) (actions : List Action) : Option Host :=
  (actions.idxOf? .ask).map fun place => hostAfter host (actions.take place)

/-- Whether a reply is right for an action that comes behind others. -/
inductive Fits (host : Host) (before : List Action) : Action → Reply → Prop
  | move (other : Host) : Fits host before (.move other) .moved
  | describe {facts : Value}
      (current : Host.Describes facts (hostAfter host before)) :
      Fits host before .describe (.facts facts)
  | ask {first : Host}
      (isFirst : firstHost? host (before ++ [.ask]) = some first) :
      Fits host before .ask (.platform first.platform)

section

variable (host : Host) (before : List Action) (action : Action)

theorem hostAfter_concat :
    hostAfter host (before ++ [action]) =
      action.host?.getD (hostAfter host before) := by
  rw [hostAfter, hostAfter, List.filterMap_append]
  cases moves : action.host? with
  | none => simp [moves]
  | some other => simp [moves]

/-- A later question does not change which one was first. -/
theorem firstHost?_concat :
    firstHost? host (before ++ [action]) =
      (firstHost? host before).or
        (if action = .ask then some (hostAfter host before) else none) := by
  rw [firstHost?, firstHost?, List.idxOf?, List.findIdx?_append]
  cases asked : before.idxOf? .ask with
  | none =>
      rw [List.idxOf?] at asked
      by_cases isAsk : action = .ask <;>
        simp [asked, List.findIdx?_cons, isAsk]
  | some place =>
      rw [List.idxOf?] at asked
      have inside : place ≤ before.length :=
        (List.findIdx?_eq_some_iff_getElem.1 asked).1.le
      simp [asked, List.take_append_of_le_length inside]

end

/-- How a detector should be: on the host at hand, and with the first answer. -/
def expected (host : Host) (actions : List Action) : Detector where
  host := hostAfter host actions
  remembered := (firstHost? host actions).map Host.platform

section

variable (host : Host) (before : List Action) (action : Action)

theorem platform_expected :
    ∃ first,
      firstHost? host (before ++ [.ask]) = some first ∧
        (expected host before).platform =
          (first.platform, expected host (before ++ [.ask])) := by
  have hosts : hostAfter host (before ++ [.ask]) = hostAfter host before :=
    hostAfter_concat host before .ask
  have firsts := firstHost?_concat host before .ask
  cases asked : firstHost? host before with
  | none =>
      rw [asked, if_pos rfl, Option.none_or] at firsts
      exact
        ⟨hostAfter host before, firsts, by
          simp [platform, expected, asked, firsts, hosts]⟩
  | some first =>
      rw [asked, Option.some_or] at firsts
      exact
        ⟨first, firsts, by
          simp [platform, expected, asked, firsts, hosts]⟩

/-- What a single action does to a detector that is as it should be. -/
theorem perform_expected :
    Fits host before action ((expected host before).perform action).1 ∧
      ((expected host before).perform action).2 =
        expected host (before ++ [action]) := by
  have hosts := hostAfter_concat host before action
  have firsts := firstHost?_concat host before action
  cases action with
  | move other =>
      exact
        ⟨.move other, by
          simp [expected, perform, onHost, Action.host?, hosts, firsts]⟩
  | describe =>
      exact
        ⟨.describe (Host.describes_facts _), by
          simp [expected, perform, Action.host?, hosts, firsts]⟩
  | ask =>
      obtain ⟨first, isFirst, answered⟩ := platform_expected host before
      rw [perform, answered]
      exact ⟨.ask isFirst, rfl⟩

end

section

variable (detector : Detector) (before rest : List Action)

theorem after_append :
    detector.after (before ++ rest) = (detector.after before).after rest := by
  induction before generalizing detector with
  | nil => rfl
  | cons action before ih => exact ih _

theorem replies_append :
    detector.replies (before ++ rest) =
      detector.replies before ++ (detector.after before).replies rest := by
  induction before generalizing detector with
  | nil => rfl
  | cons action before ih => exact congrArg (_ :: ·) (ih _)

theorem length_replies : (detector.replies before).length = before.length := by
  induction before generalizing detector with
  | nil => rfl
  | cons action before ih => exact congrArg Nat.succ (ih _)

end

section

variable (host : Host) (actions : List Action)

theorem after_fresh : (fresh host).after actions = expected host actions := by
  induction actions using List.reverseRecOn with
  | nil => rfl
  | append_singleton before action ih =>
      rw [after_append, ih]
      exact (perform_expected host before action).2

theorem getElem?_replies_fresh
    {before rest : List Action} {action : Action}
    (split : actions = before ++ action :: rest) :
    ∃ reply,
      ((fresh host).replies actions)[before.length]? = some reply ∧
        Fits host before action reply := by
  refine ⟨((expected host before).perform action).1, ?_, ?_⟩
  · rw [split, replies_append, after_fresh,
      List.getElem?_append_right (length_replies _ _).le, length_replies,
      Nat.sub_self]
    rfl
  · exact (perform_expected host before action).1

/-- Every reply answers one of the actions. -/
theorem exists_fits_of_mem
    {reply : Reply} (member : reply ∈ (fresh host).replies actions) :
    ∃ before action, Fits host before action reply := by
  obtain ⟨place, inside, there⟩ := List.mem_iff_getElem.1 member
  have isPlace : place < actions.length :=
    length_replies (fresh host) actions ▸ inside
  have split :
      actions =
        actions.take place ++ actions[place] :: actions.drop (place + 1) := by
    rw [← List.drop_eq_getElem_cons isPlace, List.take_append_drop]
  obtain ⟨found, isFound, fits⟩ := getElem?_replies_fresh host actions split
  rw [List.length_take_of_le isPlace.le, List.getElem?_eq_getElem inside,
    there, Option.some.injEq] at isFound
  exact ⟨_, _, isFound ▸ fits⟩

/-- A name that is reported is the name of the platform of some host. -/
theorem Fits.exists_platform_eq
    {before : List Action} {action : Action} {reply : Reply} {name : String}
    (fits : Fits host before action reply)
    (reported : reply.platform? = some name) :
    ∃ other : Host, name = other.platform := by
  cases fits with
  | move other => cases reported
  | @describe facts current =>
      rw [Reply.platform?, current.platform, Option.bind_some,
        Value.spelling?, Option.bind_some, Spelling.text?_ofText] at reported
      exact ⟨_, (Option.some.inj reported).symm⟩
  | @ask first isFirst => exact ⟨first, (Option.some.inj reported).symm⟩

/-- Descriptions leave no trace. -/
theorem after_filter (detector : Detector) :
    detector.after (actions.filter (· ≠ .describe)) = detector.after actions := by
  induction actions generalizing detector with
  | nil => rfl
  | cons action rest ih =>
      by_cases isDescribe : action = .describe
      · rw [List.filter_cons_of_neg (by simp [isDescribe]), ih, isDescribe]
        rfl
      · rw [List.filter_cons_of_pos (by simp [isDescribe])]
        exact ih _

end

/--
A question is answered with the platform of the host where it was asked first, a
description is that of the host at hand and leaves no trace, and a name that is reported
is reported again on a host whose system has this name.
-/
theorem remembers_first_platform (host : Host) (actions : List Action) :
    ((fresh host).replies actions).length = actions.length ∧
      (∀ before action rest,
        actions = before ++ action :: rest →
          ∃ reply,
            ((fresh host).replies actions)[before.length]? = some reply ∧
              Fits host before action reply) ∧
      ((fresh host).after actions).remembered =
        (firstHost? host actions).map Host.platform ∧
      (fresh host).after (actions.filter (· ≠ .describe)) =
        (fresh host).after actions ∧
      ∀ name machine runtime,
        some name ∈ ((fresh host).replies actions).map Reply.platform? →
          (((fresh host).after actions).replies
              [.move ⟨name, machine, runtime⟩, .describe]).map
                Reply.platform? = [none, some name] ∧
            (fresh ⟨name, machine, runtime⟩).platform.1 = name := by
  refine
    ⟨length_replies _ _, ?_, congrArg remembered (after_fresh host actions),
      after_filter actions _, ?_⟩
  · intro before action rest split
    exact getElem?_replies_fresh host actions split
  · intro name machine runtime reported
    obtain ⟨reply, member, isName⟩ := List.mem_map.1 reported
    obtain ⟨before, action, fits⟩ := exists_fits_of_mem host actions member
    obtain ⟨other, rfl⟩ := fits.exists_platform_eq host isName
    have again := other.platform_platform machine runtime
    have described :=
      (Host.describes_facts ⟨other.platform, machine, runtime⟩).platform
    refine ⟨?_, ?_⟩
    · simp [replies, perform, onHost, Reply.platform?, described, again,
        Value.spelling?]
    · exact (fst_platform_fresh _).trans again

/-- The empty name is remembered as well. -/
example :
    ((fresh ⟨"", "", ""⟩).replies
        [.ask, .move ⟨"Linux", "", ""⟩, .ask, .describe]).map Reply.platform? =
      [some "", none, some "", some "linux"] := by
  decide

end Detector

end NativeDeps
