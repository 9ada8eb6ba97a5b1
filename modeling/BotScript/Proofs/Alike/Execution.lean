import BotScript.Proofs.Alike.Statements
import BotScript.Proofs.Run.Selection
import BotScript.Run.Execute

/-! Whole runs that go alike. Requests whose programs look the same, and which agree in everything
else but the names of their runs, come to results that are alike. -/

namespace BotScript

variable {slack : Slack} {sight : Position → Position}

/-! ## What programs that look the same have in common -/

namespace Program

/-- The same bot is chosen, as it is seen. -/
theorem selectBot_seen (program : Program) (settings : Settings) (name : Option String) :
    (program.seen sight).selectBot settings name =
      (program.selectBot settings name).map (Bot.seen sight) :=
  selectBot_map (Bot.seen sight) (fun _ => rfl) program settings name

end Program

theorem Slot.ofBlocks_seen (metadata : Metadata) (blocks : List MemoryBlock) :
    Slot.ofBlocks metadata (blocks.map (MemoryBlock.seen sight)) =
      Slot.ofBlocks metadata blocks := by
  unfold Slot.ofBlocks
  rw [List.flatMap_map]
  refine congrArg Entries.ofList (congrArg (List.flatMap · blocks) (funext fun block => ?_))
  exact List.map_map

/-- The slots do not depend on the name of the run. -/
theorem Slot.ofBlocks_rename (metadata : Metadata) (runId : String) (blocks : List MemoryBlock) :
    Slot.ofBlocks { metadata with runId } blocks = Slot.ofBlocks metadata blocks := by
  have owners (scope : Scope) : Slot.owner { metadata with runId } scope =
      Slot.owner metadata scope := by
    cases scope <;> rfl
  simp only [ofBlocks, ofVariable, scopedKey, owners]

namespace Bot

open Stop

/-- The same handler is chosen, as it is seen. -/
inductive HandlerAlike (sight : Position → Position) :
    Option (Nat × Handler) → Option (Nat × Handler) → Prop
  | none : HandlerAlike sight none none
  | some {index : Nat} {handler other : Handler} (look : handler.seen sight = other.seen sight) :
    HandlerAlike sight (some (index, handler)) (some (index, other))

private theorem accepts_alike {handler other : Handler}
    (look : handler.seen slack.sight = other.seen slack.sight) (env : Environment)
    (event : String) : EndAlike slack Eq (accepts env event handler) (accepts env event other) := by
  obtain ⟨name, guard, body, p⟩ := handler
  obtain ⟨name', guard', body', q⟩ := other
  obtain ⟨rfl, guards, -, -⟩ := Handler.mk.inj look
  unfold accepts
  dsimp only
  split
  · exact .ok rfl
  · cases guard with
    | none =>
      cases guard' with
      | none => exact .ok rfl
      | some expr' => cases guards
    | some expr =>
      cases guard' with
      | none => cases guards
      | some expr' => exact Expr.condition_alike (Option.some.inj guards) env _

private theorem firstAccepting_alike {handlers others : List Handler}
    (look : handlers.map (Handler.seen slack.sight) = others.map (Handler.seen slack.sight))
    (env : Environment) (event : String) (index : Nat) :
    EndAlike slack (HandlerAlike slack.sight) (firstAccepting env event index handlers)
      (firstAccepting env event index others) := by
  induction handlers generalizing others index with
  | nil =>
    obtain rfl := List.map_eq_nil_iff.mp look.symm
    exact .ok .none
  | cons handler rest ih =>
    cases others with
    | nil => cases look
    | cons other others =>
      obtain ⟨first, later⟩ := List.cons.inj look
      refine (accepts_alike first env event).bind fun holds _ same => ?_
      subst same
      cases holds with
      | true => exact .ok (.some first)
      | false => exact ih later (index + 1)

theorem selectHandler_alike {bot other : Bot} (look : bot.seen slack.sight = other.seen slack.sight)
    (event : String) (env : Environment) :
    EndAlike slack (HandlerAlike slack.sight) (bot.selectHandler event env)
      (other.selectHandler event env) :=
  firstAccepting_alike (congrArg handlers look) env event 0

end Bot

/-! ## Requests -/

/-- Two refusals of program texts: they say the same, perhaps about different places. -/
inductive SyntaxError.Alike (slack : Slack) : SyntaxError → SyntaxError → Prop
  | reported {error other : SyntaxError} {report report' : SyntaxReport}
      (given : error.report = .ok report)
    (given' : other.report = .ok report') (kind : report.kind = report'.kind)
    (message : report.message = report'.message) (expected : report.expected = report'.expected)
    (found : report.found = report'.found)
    (look : slack.sight report.position = slack.sight report'.position) : Alike slack error other
  | numeral (numeral : Numeral) : Alike slack (.numeral numeral) (.numeral numeral)

/-- Two program texts are programs that look the same, or they are refused alike. -/
inductive SyntaxError.EndAlike (slack : Slack) :
    Except SyntaxError Program → Except SyntaxError Program → Prop
  | ok {program other : Program} (look : program.seen slack.sight = other.seen slack.sight) :
    EndAlike slack (.ok program) (.ok other)
  | error {error other : SyntaxError} (errors : error.Alike slack other) :
      EndAlike slack (.error error) (.error other)

theorem SyntaxError.EndAlike.refl (result : Except SyntaxError Program) :
    EndAlike slack result result := by
  cases result with
  | ok program => exact .ok rfl
  | error error =>
    cases error with
    | lexical error => exact .error (.reported rfl rfl rfl rfl rfl rfl rfl)
    | grammar complaint position => exact .error (.reported rfl rfl rfl rfl rfl rfl rfl)
    | numeral numeral => exact .error (.numeral numeral)

/-- Two requests for runs: their programs look the same, and only the names of the runs may differ
besides. -/
structure RunRequest.Alike (slack : Slack) (request other : RunRequest) : Prop where
  programs : SyntaxError.EndAlike slack (parseProgram request.source) (parseProgram other.source)
  rest : other = { request with
    source := other.source
    metadata := { request.metadata with runId := other.metadata.runId } }
  steady : slack.Steady request.settings.executionTimeout

/-- Two failures as results report them. -/
inductive RunFailure.Alike (slack : Slack) : Option RunFailure → Option RunFailure → Prop
  | none : Alike slack none none
  | some {kind : ErrorKind} {report other : String} (reports : ReportAlike slack report other) :
    Alike slack (some ⟨kind, report⟩) (some ⟨kind, other⟩)

/-- Two results show the same, except for the places that they name. -/
structure RunResult.Alike (slack : Slack) (result other : RunResult) : Prop where
  failure : RunFailure.Alike slack result.failure other.failure
  output : result.output = other.output
  steps : List.Forall₂ (Step.Alike slack) result.steps other.steps
  transcript : result.transcript = other.transcript
  bindings : result.bindings = other.bindings
  bot : result.bot = other.bot
  event : result.event = other.event
  handler : result.handler = other.handler

theorem RunFailure.Alike.eq {failure other : Option RunFailure} (sharp : slack.Sharp)
    (alike : RunFailure.Alike slack failure other) : failure = other := by
  cases alike with
  | none => rfl
  | some reports => rw [reports.eq sharp]

/-- Where positions are compared as they are, results that are alike differ in the names of their
runs alone. -/
theorem RunResult.Alike.eq {result other : RunResult} (sharp : slack.Sharp)
    (alike : result.Alike slack other) :
    other = { result with runId := other.runId } := by
  have failure := alike.failure.eq sharp
  have steps : result.steps = other.steps :=
    List.forall₂_eq_eq_eq ▸ alike.steps.imp fun _ _ same => same.eq sharp
  obtain ⟨-, output, -, transcript, bindings, bot, event, handler⟩ := alike
  rw [failure, output, steps, transcript, bindings, bot, event, handler]

/-- Two requests come to results that are alike, each under the name of its run, or to the same
escape. -/
inductive RunResult.EndAlike (slack : Slack) (request other : RunRequest) :
    Except Escape RunResult → Except Escape RunResult → Prop
  | ok {result result' : RunResult} (alike : result.Alike slack result')
      (named : result.runId = request.metadata.runId)
    (named' : result'.runId = other.metadata.runId) :
    EndAlike slack request other (.ok result) (.ok result')
  | error (escape : Escape) : EndAlike slack request other (.error escape) (.error escape)

namespace Run

open Stop

variable {request other : RunRequest}

theorem loadVariables_alike {setup setup' : Setup} (setups : setup.Alike slack setup') :
    Alike slack Eq (loadVariables setup) (loadVariables setup') := by
  unfold loadVariables
  rw [setups.slots]
  refine (Alike.host (setups.memory.hydrate _)).andThen fun given => ?_
  refine (Alike.evaluated (.refl given)).andThen fun values => ?_
  exact .forEach fun pair => .bound pair.1 pair.2

theorem answer_alike (requests : request.Alike slack other) {setup setup' : Setup}
    (setups : setup.Alike slack setup') {bot bot' : Bot}
    (look : bot.seen slack.sight = bot'.seen slack.sight) :
    Alike slack Eq (answer request setup bot) (answer other setup' bot') := by
  have event : other.event = request.event := by rw [requests.rest]
  have settings : other.settings = request.settings := by rw [requests.rest]
  have names := congrArg Bot.name look
  have kinds := congrArg Bot.kind look
  have name : bot.name = bot'.name := names
  have kind : bot.kind = bot'.kind := kinds
  unfold answer
  rw [event, settings, name, kind]
  refine Alike.env.andThen fun env =>
    (Alike.evaluated (Bot.selectHandler_alike look _ env)).bind fun _ _ handlers => ?_
  cases handlers with
  | none =>
    dsimp only
    split
    · exact .tell _ _
    · exact .throw (.refl _)
  | some seen =>
    refine Alike.andThen (.modify fun _ _ states => ?_) fun _ =>
      execAll_alike setups _ (congrArg Handler.body seen)
    exact { states with handler := rfl }

/-- The setups of two requests, at moments that may stand for one another. -/
theorem setup_alike (requests : request.Alike slack other) {bot bot' : Bot}
    (look : bot.seen slack.sight = bot'.seen slack.sight) (catalogue : Catalogue)
    {start start' : Moment} (starts : slack.moments start start') :
    (request.setup bot catalogue start.now).Alike slack
      (other.setup bot' catalogue start'.now) := by
  have memory : bot.memory.map (MemoryBlock.seen slack.sight) =
    bot'.memory.map (MemoryBlock.seen slack.sight) :=
    congrArg Bot.memory look
  rw [requests.rest]
  refine ⟨rfl, rfl, rfl, rfl, ?_, requests.steady start start' starts, rfl⟩
  calc Slot.ofBlocks request.metadata bot.memory
    _ = Slot.ofBlocks request.metadata bot'.memory := by
      rw [← Slot.ofBlocks_seen _ bot.memory, memory, Slot.ofBlocks_seen]
    _ = _ := (Slot.ofBlocks_rename request.metadata other.metadata.runId bot'.memory).symm

theorem program_alike (requests : request.Alike slack other) {program program' : Program}
    (look : program.seen slack.sight = program'.seen slack.sight) :
    Alike slack Eq (Run.program request program) (Run.program other program') := by
  have chosen : (program.selectBot request.settings request.bot).map (Bot.seen slack.sight) =
      (program'.selectBot other.settings other.bot).map (Bot.seen slack.sight) := by
    rw [← Program.selectBot_seen, look, Program.selectBot_seen, requests.rest]
  have offers : other.offers = request.offers := by rw [requests.rest]
  unfold Run.program
  rw [offers]
  revert chosen
  generalize program.selectBot request.settings request.bot = selected
  generalize program'.selectBot other.settings other.bot = selected'
  intro chosen
  cases selected with
  | error cause =>
    cases selected' with
    | error cause' =>
      obtain rfl := Except.error.inj chosen
      exact fun _ _ states => .done ⟨.error (.refl _), states⟩
    | ok bot' => cases chosen
  | ok bot =>
    cases selected' with
    | error cause' => cases chosen
    | ok bot' =>
      have seen : bot.seen slack.sight = bot'.seen slack.sight := Except.ok.inj chosen
      have names := congrArg Bot.name seen
      have bots : Alike slack (fun a b => a = bot ∧ b = bot') (pure bot) (pure bot') :=
        .pure ⟨rfl, rfl⟩
      refine bots.bind ?_
      rintro _ _ ⟨rfl, rfl⟩
      refine Alike.andThen (.modify fun _ _ states => { states with bot := congrArg some names })
        fun _ => ?_
      refine Alike.observed.bind fun start start' starts => ?_
      refine (Alike.evaluated (.refl _)).andThen fun catalogue => ?_
      have setups := setup_alike requests seen catalogue starts
      exact (loadVariables_alike setups).andThen fun _ => answer_alike requests setups seen

end Run

namespace RunRequest

variable {request other : RunRequest}

/-- What states that are alike show in results. -/
theorem resultOf_alike (requests : request.Alike slack other) {failure failure' : Option RunFailure}
    (failures : RunFailure.Alike slack failure failure') {state state' : RunState}
    (states : state.Alike slack state') :
    (request.resultOf failure state).Alike slack (other.resultOf failure' state') where
  failure := failures
  output := congrArg (String.intercalate "\n") states.output
  steps := states.steps
  transcript := states.transcript
  bindings := congrArg Environment.bindings states.env
  bot := states.bot
  event := by rw [requests.rest]; rfl
  handler := states.handler

private theorem initial_alike (env : Environment) :
    (RunState.initial env).Alike slack (.initial env) :=
  ⟨rfl, rfl, .nil, rfl, rfl, rfl⟩

private theorem reject_alike (requests : request.Alike slack other) {error error' : SyntaxError}
    (errors : error.Alike slack error') :
    RunResult.EndAlike slack request other (request.reject error).1 (other.reject error').1 := by
  cases errors with
  | numeral numeral => exact .error _
  | @reported _ _ report report' given given' kind message expected found look =>
    unfold reject
    rw [given, given']
    change RunResult.EndAlike slack request other
      (.ok (request.rejection ⟨report.kind, report.describe⟩))
      (.ok (other.rejection ⟨report'.kind, report'.describe⟩))
    have reports : ReportAlike slack report.describe report'.describe := by
      unfold SyntaxReport.describe SyntaxReport.place
      rw [kind, message]
      exact .intro _ _ (.seen look)
    rw [kind]
    have failures : RunFailure.Alike slack (some ⟨report'.kind, report.describe⟩)
        (some ⟨report'.kind, report'.describe⟩) := .some reports
    have alike := resultOf_alike requests failures (initial_alike .empty)
    exact .ok { alike with bindings := rfl } rfl rfl

private theorem conclude_alike (requests : request.Alike slack other)
    {ended ended' : Except Stop Unit} (ends : Stop.EndAlike slack Eq ended ended')
    {state state' : RunState} (states : state.Alike slack state') :
    RunResult.EndAlike slack request other (request.conclude (ended, state)).1
      (other.conclude (ended', state')).1 := by
  cases ends with
  | ok same => exact .ok (resultOf_alike requests .none states) rfl rfl
  | error stops =>
    cases stops with
    | escape escape => exact .error escape
    | @fault fault fault' alike =>
      have kind : fault.cause.kind = fault'.cause.kind := by rw [alike.cause]
      refine .ok (resultOf_alike requests ?_ states) rfl rfl
      rw [kind]
      exact .some alike.describe

/-- Requests that are alike come to results that are alike, in conversations that go alike. -/
theorem execute_alike (requests : request.Alike slack other) :
    Dialogue.Alike slack (fun left right => RunResult.EndAlike slack request other left.1 right.1)
      request.execute
      other.execute := by
  have environment : other.environment = request.environment := by rw [requests.rest]; rfl
  have programs := requests.programs
  unfold execute
  rw [environment]
  revert programs
  generalize parseProgram request.source = parsed
  generalize parseProgram other.source = parsed'
  intro programs
  cases programs with
  | error errors => exact .done (reject_alike requests errors)
  | ok look =>
    dsimp only
    split
    · exact .done (.error _)
    · refine (Run.program_alike requests look _ _ (initial_alike _)).bind ?_
      rintro ⟨ended, state⟩ ⟨ended', state'⟩ ⟨ends, states⟩
      exact .done (conclude_alike requests ends states)

end RunRequest

end BotScript
