import NativeDeps.Proofs.Nix.WholeExpression
import NativeDeps.Proofs.Provisioner.Claims
import NativeDeps.Proofs.ShellExit

/-!
# The expression that is written

Whoever asks for the dependencies or for the expression resolves the host and chooses the
provisioner anew.  All come to the same: what the shell writes is what is rendered on
request, and its handle lists what is listed on request.
-/

namespace NativeDeps

open Work

theorem ProvisionerKind.name_of_ofName?
    {text : String} {kind : ProvisionerKind}
    (named : ofName? text = some kind) : kind.name = text := by
  rw [ofName?] at named
  have isName := List.find?_some named
  exact of_decide_eq_true isName

/-- A result that is put together from two others is a value where both are. -/
theorem exists_of_bind
    {α β : Type} {result : Except Failure α} {next : α → Except Failure β}
    {value : β} (succeeds : result >>= next = .ok value) :
    ∃ first, result = .ok first ∧ next first = .ok value := by
  cases result with
  | error failure => cases succeeds
  | ok first => exact ⟨first, rfl, succeeds⟩

namespace Workspace

variable {workspace other : Workspace} {name : Value}
  {provisioner : Provisioner} {set : DependencySet}

/-- A way to provide an environment has one name only. -/
theorem eq_text_of_kindOf
    {kind : ProvisionerKind} (isKind : kindOf name = .ok kind) :
    name = .text kind.name := by
  unfold kindOf at isKind
  split at isKind
  · extract_lets kind? at isKind
    cases named : kind? with
    | none =>
        rw [named] at isKind
        cases written : name.written with
        | error failure =>
            rw [written] at isKind
            cases isKind
        | ok text =>
            rw [written] at isKind
            cases isKind
    | some other =>
        rw [named] at isKind
        obtain rfl := Except.ok.inj isKind
        dsimp only [kind?] at named
        split at named
        · rw [ProvisionerKind.name_of_ofName? named]
        · cases named
  · cases isKind

/-- What is chosen by default, or by any name, is chosen by its own name. -/
theorem choice_own_name
    {kind : ProvisionerKind} {settings : Value}
    (chosen : workspace.choice name = .ok (kind, settings)) :
    workspace.choice (.text kind.name) = .ok (kind, settings) := by
  have asks :
      ∃ asked,
        (kindOf asked >>= fun kind => do
          return (kind, ← workspace.configuration.provisionerSettings asked)) =
            .ok (kind, settings) := by
    rw [choice] at chosen
    split at chosen
    · exact ⟨name, chosen⟩
    · obtain ⟨asked, _, chosen⟩ := exists_of_bind chosen
      exact ⟨asked, chosen⟩
  obtain ⟨asked, chosen⟩ := asks
  obtain ⟨found, isKind, isSet⟩ := exists_of_bind chosen
  obtain ⟨value, _, same⟩ := exists_of_bind isSet
  obtain ⟨rfl, rfl⟩ := Prod.mk.inj (Except.ok.inj same)
  rw [eq_text_of_kindOf isKind] at chosen
  cases found <;> exact chosen

/-- What is rendered for a set depends on the configuration alone. -/
theorem exists_provisioner_of_nix
    (asked : workspace.provisioner name = .ok provisioner)
    (isNix : provisioner.kind = .nix)
    (sameConfiguration : other.configuration = workspace.configuration) :
    ∃ own,
      other.provisioner (.text ProvisionerKind.nix.name) = .ok own ∧
        ∀ set, own.render set = provisioner.render set := by
  rw [provisioner_eq] at asked
  cases chosen : workspace.choice name with
  | error failure =>
      rw [chosen] at asked
      cases asked
  | ok pair =>
      rcases pair with ⟨kind, settings⟩
      rw [chosen] at asked
      cases asked
      obtain rfl : kind = .nix := isNix
      have sameChoice : ∀ name, other.choice name = workspace.choice name := by
        intro name
        rw [choice, choice, sameConfiguration]
      refine
        ⟨.make .nix settings other.directory other.isDryRun, ?_,
          fun set => rfl⟩
      rw [provisioner_eq, sameChoice, choice_own_name chosen]
      rfl

theorem tellsPlainly_resolve (workspace : Workspace) :
    TellsPlainly workspace.resolve :=
  .bind (.ofExcept _) fun set =>
    .bind (.ofExcept _) fun _ =>
      .bind (.record rfl) fun _ => .bind (.record rfl) fun _ => .pure set

theorem gives_resolve (workspace : Workspace) :
    Gives (fun set => workspace.descriptor.resolveOn workspace.host = .ok set)
      workspace.resolve := by
  intro session set succeeds
  rwa [fst_perform_resolve] at succeeds

/-- Where the host can be resolved, a summary lists what is resolved. -/
theorem exists_summary
    (resolves : workspace.descriptor.resolveOn workspace.host = .ok set)
    (session : Session) :
    ∃ summary,
      (workspace.summary.perform session).1 = .ok summary ∧
        summary.dependencies = set.identifiers := by
  obtain ⟨after, performs, _⟩ := perform_resolve resolves session
  obtain ⟨holds, asksCondition, _⟩ := exists_of_bind resolves
  rw [summary, perform_bind_of_ok performs]
  dsimp only
  rw [asksCondition]
  exact ⟨_, rfl, rfl⟩

end Workspace

namespace Environment

/-- What an environment yields whenever it is asked: an expression, and a set. -/
structure Yields (environment : Environment) (text : Spelling)
    (set : DependencySet) : Prop where
  renders : ∀ session, (environment.render.perform session).1 = .ok text
  resolves : ∀ session, (environment.resolve.perform session).1 = .ok set
  summarizes :
    ∀ session,
      ∃ summary,
        (environment.workspace.summary.perform session).1 = .ok summary ∧
          summary.dependencies = set.identifiers

variable {environment other : Environment} {name : Value}
  {provisioner : Provisioner} {set : DependencySet} {text : Spelling}

/-- Environments for one configuration and one host yield the same. -/
theorem yields_of_provisioner
    (asked : environment.workspace.provisioner name = .ok provisioner)
    (isNix : provisioner.kind = .nix)
    (resolves :
      environment.workspace.descriptor.resolveOn environment.workspace.host =
        .ok set)
    (rendered : provisioner.render set = .ok text)
    (sameConfiguration :
      other.workspace.configuration = environment.workspace.configuration)
    (sameHost : other.workspace.host = environment.workspace.host) :
    other.Yields text set := by
  obtain ⟨own, ownAsked, rendersAlike⟩ :=
    Workspace.exists_provisioner_of_nix asked isNix sameConfiguration
  have ownResolves :
      other.workspace.descriptor.resolveOn other.workspace.host = .ok set := by
    rw [Workspace.descriptor, sameConfiguration, sameHost]
    exact resolves
  refine ⟨fun session => ?_, fun session => ?_, fun session => ?_⟩
  · obtain ⟨after, performs, _⟩ :=
      Workspace.perform_resolve ownResolves session
    rw [render, ownAsked, perform_bind_of_ok (perform_ofExcept _ _),
      Environment.resolve, perform_bind_of_ok performs, rendersAlike, rendered]
    rfl
  · exact
      (Workspace.fst_perform_resolve other.workspace session).trans ownResolves
  · exact Workspace.exists_summary ownResolves session

/-- What the shell comes to is a handle of the set that is resolved. -/
theorem gives_shell
    (asked : environment.workspace.provisioner name = .ok provisioner)
    (isNix : provisioner.kind = .nix)
    (resolves :
      environment.workspace.descriptor.resolveOn environment.workspace.host =
        .ok set)
    (command : Value) :
    Gives (fun handle => handle.set = set) (environment.shell name command) := by
  intro session handle succeeds
  obtain ⟨before, _, performs⟩ :=
    Workspace.perform_provision asked resolves command false session
  have givesSet :
      Gives (fun handle => handle.set = set)
        (provisioner.provision set command false) := by
    rw [Provisioner.provision_of_nix isNix, Provisioner.provideShell_eq]
    refine .bind fun content => .bind fun _ => .bind fun _ => ?_
    refine .bind fun tree => .bind fun words => .bind fun executable => ?_
    exact .bind fun written => .bind fun _ => .bind fun completion => .pure rfl
  have provides := givesSet before
  rw [← performs] at provides
  rw [shell, perform_bind] at succeeds
  rcases performed :
      (environment.workspace.provision name command false).perform session with
    ⟨failure | given, after⟩
  · rw [performed] at succeeds
    cases succeeds
  · rw [performed] at succeeds provides
    cases succeeds
    exact provides _ rfl

/-- Of its expression alone the shell says that it was written, when it stands at its place. -/
theorem claimsOnly_shell
    (asked : environment.workspace.provisioner name = .ok provisioner)
    (isNix : provisioner.kind = .nix) (command : Value) :
    ClaimsOnly
      (fun claimed tree =>
        claimed = provisioner.expressionPath ∧
          ∃ (set : DependencySet) (text : String),
            environment.workspace.descriptor.resolveOn
                  environment.workspace.host =
                .ok set ∧
              provisioner.render set = .ok text ∧
              tree.get? (claimed.location tree.directory) =
                some (.file (.text text)))
      (environment.shell name command) := by
  have givesProvisioner :
      Gives (provisioner = ·)
        (Work.ofExcept (environment.workspace.provisioner name)) := by
    intro session other succeeds
    rw [asked] at succeeds
    exact Except.ok.inj succeeds
  have reports :
      ∀ handle : Handle,
        TellsPlainly
          (Work.tell (.provisioned handle.kind.name handle.status) >>=
            fun _ => pure handle) :=
    fun handle => .bind (.record rfl) fun _ => .pure handle
  refine .bind ?_ fun handle => (reports handle).claimsOnly
  refine
    .bind_of_gives (TellsPlainly.ofExcept _).claimsOnly givesProvisioner ?_
  rintro _ rfl
  refine
    .bind_of_gives environment.workspace.tellsPlainly_resolve.claimsOnly
      environment.workspace.gives_resolve fun set resolves => ?_
  rw [Provisioner.provision_of_nix isNix]
  refine (provisioner.claimsOnly_provideShell set command false).mono ?_
  rintro claimed tree ⟨isPath, text, rendered, stands⟩
  exact ⟨isPath, set, text, resolves, rendered, stands⟩

end Environment

namespace CommandLine

/-- A request succeeds, and prints just this text. -/
def Prints (request : Request) (detector : Detector) (session : Session)
    (text : String) : Prop :=
  ∃ after,
    (carryOut request detector).perform session = (.ok 0, after) ∧
      after.printed = session.printed ++ text

/-- How the dependencies are listed on request. -/
def listing (isJson : Bool) (identifiers : List String) : String :=
  if isJson then
    Json.array (identifiers.map Spelling.ofText) ++ "\n"
  else
    textOfLines identifiers

variable {request : Request} {detector : Detector}
  {session started : Session} {environment : Environment} {text : String}
  {set : DependencySet} {choices : Choices}

/-- What is asked of an environment silently, and only then printed. -/
theorem prints_of_gives
    {α : Type} {task : Work α} {next : α → Work Unit} {value : α}
    (starts :
      (Environment.start (settingsOf request.choices) detector).perform
          session =
        (.ok environment, started))
    (answers : answer request environment = task >>= next)
    (silent : Keeps Session.printed task)
    (gives : (task.perform started).1 = .ok value)
    (shows :
      ∀ session,
        (next value).perform session =
          (.ok (), session.add (.output text))) :
    Prints request detector session text := by
  have startPrints :=
    Environment.keeps_start_of_tell .tell_printed
      (settingsOf request.choices) detector session
  have taskPrints := silent started
  rw [starts] at startPrints
  rcases performed : task.perform started with ⟨result, after⟩
  rw [performed] at gives taskPrints
  obtain rfl : result = .ok value := gives
  have answered :
      (answer request environment).perform started =
        (.ok (), after.add (.output text)) := by
    rw [answers, perform_bind_of_ok performed, shows]
  refine ⟨after.add (.output text), ?_, ?_⟩
  · exact perform_carryOut starts answered
  · rw [Session.printed_add]
    show after.printed ++ _ = _
    rw [taskPrints, startPrints]
    rfl

theorem prints_render
    (starts :
      (Environment.start (settingsOf choices) detector).perform session =
        (.ok environment, started))
    (yields : environment.Yields text set) :
    Prints ⟨.render, choices⟩ detector session text := by
  have answers :
      answer ⟨.render, choices⟩ environment =
        environment.render >>= Work.printText :=
    rfl
  exact
    prints_of_gives starts answers
      (environment.keeps_render_of_tell .tell_printed)
      (yields.renders started) (perform_printText text)

/-- The dependencies are resolved silently, and then printed as they are asked for. -/
theorem prints_resolved
    (starts :
      (Environment.start (settingsOf choices) detector).perform session =
        (.ok environment, started))
    (gives : (environment.resolve.perform started).1 = .ok set)
    (shows :
      ∀ session : Session,
        Work.perform
            (if choices.isJson then
              Work.print (Json.array set.identifiers ++ "\n")
            else
              Work.printLines set.identifiers)
            session =
          (.ok (), session.add (.output text))) :
    Prints ⟨.resolve, choices⟩ detector session text :=
  prints_of_gives starts rfl
    (environment.workspace.keeps_resolve_of_tell .tell_printed) gives shows

/-- As JSON any identifiers are printed. -/
theorem prints_json
    (starts :
      (Environment.start (settingsOf choices) detector).perform session =
        (.ok environment, started))
    (isJson : choices.isJson = true)
    (gives : (environment.resolve.perform started).1 = .ok set) :
    Prints ⟨.resolve, choices⟩ detector session
      (Json.array set.identifiers ++ "\n") := by
  refine prints_resolved starts gives fun later => ?_
  rw [if_pos isJson]
  rfl

/-- Identifiers without halves of characters are listed as they are asked for. -/
theorem prints_listing
    (starts :
      (Environment.start (settingsOf choices) detector).perform session =
        (.ok environment, started))
    (gives : (environment.resolve.perform started).1 = .ok set)
    {identifiers : List String}
    (areTexts : set.identifiers = identifiers.map Spelling.ofText) :
    Prints ⟨.resolve, choices⟩ detector session
      (listing choices.isJson identifiers) := by
  cases isJson : choices.isJson with
  | true =>
      rw [listing, if_pos rfl, ← areTexts]
      exact prints_json starts isJson gives
  | false =>
      refine prints_resolved starts gives fun later => ?_
      rw [isJson, if_neg Bool.false_ne_true, areTexts, perform_printLines]
      rfl

/-- What could be written to a file has identifiers without halves of characters. -/
theorem exists_identifiers
    {provisioner : Provisioner} (isNix : provisioner.kind = .nix)
    (rendered : provisioner.render set = .ok (text : Spelling)) :
    ∃ identifiers : List String,
      set.identifiers = identifiers.map Spelling.ofText := by
  obtain ⟨_, packages, _, _, isExpression⟩ :=
    Provisioner.render_nix isNix rendered
  have isWhole := Spelling.isWhole_ofText text
  rw [isExpression, Nix.isWhole_expression] at isWhole
  refine Spelling.exists_texts fun identifier member => ?_
  obtain ⟨dependency, isMember, rfl⟩ := List.mem_map.1 member
  exact
    Dependency.isWhole_identifier
      (isWhole.2.2 _ (List.mem_map_of_mem isMember))

/--
Whenever the shell says that it has written a file, that is its expression, and what
stands there is what is rendered for the same configuration and host, whoever asks.  The
set of the handle, of what is resolved and of what is summarized is one and the same.
-/
theorem written_expression_is_rendered
    {environment : Environment} {name command : Value}
    {provisioner : Provisioner}
    (asked : environment.workspace.provisioner name = .ok provisioner)
    (isNix : provisioner.kind = .nix)
    {session after : Session} {result : Except Failure Handle}
    (provides :
      (environment.shell name command).perform session = (result, after))
    {occurrence : Occurrence}
    (happens : occurrence ∈ after.history.drop session.history.length)
    {path : Files.Path} (wrote : occurrence.event = .notice (.wrote path)) :
    path = provisioner.expressionPath ∧
      ∃ (text : String) (set : DependencySet) (identifiers : List String),
        occurrence.files.get? (path.location occurrence.files.directory) =
            some (.file (.text text)) ∧
          (∀ handle, result = .ok handle → handle.set = set) ∧
          set.identifiers = identifiers.map Spelling.ofText ∧
          ∀ other : Environment,
            other.workspace.configuration =
                environment.workspace.configuration →
              other.workspace.host = environment.workspace.host →
                other.Yields text set ∧
                  ∀ choices detector earlier started,
                    (Environment.start (settingsOf choices) detector).perform
                          earlier =
                        (.ok other, started) →
                      Prints ⟨.render, choices⟩ detector earlier text ∧
                        Prints ⟨.resolve, choices⟩ detector earlier
                          (listing choices.isJson identifiers) := by
  obtain ⟨added, history, claims⟩ :=
    Environment.claimsOnly_shell asked isNix command session
  rw [provides] at history
  rw [history, List.drop_left] at happens
  obtain ⟨isPath, set, text, resolves, rendered, stands⟩ :=
    claims occurrence happens path (by rw [wrote]; rfl)
  obtain ⟨identifiers, areTexts⟩ := exists_identifiers isNix rendered
  refine
    ⟨isPath, text, set, identifiers, stands, fun handle isHandle => ?_,
      areTexts, fun other sameConfiguration sameHost => ?_⟩
  · have gives := Environment.gives_shell asked isNix resolves command session
    rw [provides] at gives
    exact gives handle isHandle
  · have yields :=
      Environment.yields_of_provisioner asked isNix resolves rendered
        sameConfiguration sameHost
    refine ⟨yields, fun choices detector earlier started starts => ?_⟩
    exact
      ⟨prints_render starts yields,
        prints_listing starts (yields.resolves started) areTexts⟩

/-- With the shipped configuration the shell writes what is rendered on request. -/
theorem shipped_expression_is_rendered :
    ∃ environment started provisioner result after occurrence text,
      (Environment.start (settingsOf {})
              ⟨⟨"Linux", "x86_64", "3.11"⟩, none⟩).perform
            (.inEmptyHome []) =
          (.ok environment, started) ∧
        environment.workspace.provisioner .null = .ok provisioner ∧
        provisioner.kind = .nix ∧
        (environment.shell .null .null).perform started = (result, after) ∧
        occurrence ∈ after.history.drop started.history.length ∧
        occurrence.event =
          .notice (.wrote (.ofString "/home/build/devenv/shell.nix")) ∧
        occurrence.files.get? ["home", "build", "devenv", "shell.nix"] =
          some (.file (.text text)) ∧
        Prints ⟨.render, {}⟩ ⟨⟨"Linux", "x86_64", "3.11"⟩, none⟩
          (.inEmptyHome []) text := by
  have exists_run :
      ∃ environment started provisioner result after,
        (Environment.start (settingsOf {})
                ⟨⟨"Linux", "x86_64", "3.11"⟩, none⟩).perform
              (.inEmptyHome []) =
            (.ok environment, started) ∧
          environment.workspace.provisioner .null = .ok provisioner ∧
          provisioner.kind = .nix ∧
          (environment.shell .null .null).perform started = (result, after) ∧
          ((after.history.drop started.history.length)[2]?.bind
              fun occurrence => occurrence.event.expression?) =
            some (.ofString "/home/build/devenv/shell.nix") :=
    ⟨_, _, _, _, _, rfl, rfl, rfl, (Prod.eta _).symm, by decide +kernel⟩
  obtain
    ⟨environment, started, provisioner, result, after, starts, asked, isNix,
      provides, third⟩ := exists_run
  obtain ⟨occurrence, isThird, told⟩ := Option.bind_eq_some_iff.1 third
  have wrote := Event.eq_of_expression? told
  have happens := List.mem_of_getElem? isThird
  obtain ⟨_, text, set, identifiers, stands, _, _, others⟩ :=
    written_expression_is_rendered asked isNix provides happens wrote
  obtain ⟨_, prints⟩ := others environment rfl rfl
  exact
    ⟨environment, started, provisioner, result, after, occurrence, text,
      starts, asked, isNix, provides, happens, wrote, stands,
      (prints {} _ _ _ starts).1⟩

end CommandLine

end NativeDeps
