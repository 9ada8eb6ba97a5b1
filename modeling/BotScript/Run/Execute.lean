import BotScript.Run.Result
import BotScript.Run.Selection
import BotScript.Run.Statement
import BotScript.Syntax.Bot.Reader

/-!
A whole run: from the text of a program and an event to a result. Failures of the program, its tools
and the memory become part of the result; only mistakes of the caller escape.
-/

namespace BotScript

/-- What a host asks for. -/
structure RunRequest where
  source : String
  input : Datum
  event : String
  /-- Variables that are bound from the start. -/
  bindings : List (String × Datum)
  bot : Option String
  offers : List Offer
  /-- The host has a memory. -/
  connected : Bool
  metadata : Metadata
  settings : Settings
  redaction : Redaction

namespace RunRequest

/-- The event of a run when nothing else is said. -/
def defaultEvent : String := "input"

/-- The input as a mapping: an object as it is, a plain text or other data under one key. -/
def inputMapping : Datum → Datum
  | .null => .mapping []
  | .mapping entries => .mapping entries
  | other => .mapping [(.text "input", other)]

/-- The input as programs see it. -/
def inputValue (input : Datum) : Except Datum.Obstacle Value :=
  (inputMapping input).convert

/-- The variables before anything has happened. -/
def environment (request : RunRequest) : Except Datum.Obstacle Environment := do
  (Environment.empty.bind "input" (← inputValue request.input)).bindAll request.bindings

/-- What is fixed for the run of a bot that starts at some time. -/
def setup (request : RunRequest) (bot : Bot) (catalogue : Catalogue) (now : Binary64) : Setup where
  settings := request.settings
  redaction := request.redaction
  metadata := request.metadata
  catalogue := catalogue
  slots := Slot.ofBlocks request.metadata bot.memory
  deadline := Deadline.start? request.settings.executionTimeout now
  connected := request.connected

end RunRequest

namespace Run

/-- The values of declared variables are read and bound. -/
def loadVariables (setup : Setup) : Run Unit := do
  let values ← evaluated (← host (setup.memory.hydrate setup.slots))
  forEach (fun pair : String × Value => bind pair.1 pair.2) values

/-- The handler of a bot that answers the event. -/
def answer (request : RunRequest) (setup : Setup) (bot : Bot) : Run Unit := do
  match ← evaluated (bot.selectHandler request.event (← env)) with
  | some (index, handler) =>
    modify fun state => { state with handler := some index }
    execAll setup handler.body
  | none =>
    if request.settings.synthesizeFallback then tell (.unanswered request.metadata.runId)
    else fail (.noHandler request.event bot.kind.word bot.name)

/-- The run of a program. -/
def program (request : RunRequest) (program : Program) : Run Unit := do
  let bot ← checked (program.selectBot request.settings request.bot)
  modify fun state => { state with bot := some bot.name }
  let start ← host (Dialogue.query .observe)
  let catalogue ← evaluated ((Catalogue.ofOffers request.offers).mapError Stop.escape)
  let setup := request.setup bot catalogue start.now
  loadVariables setup
  answer request setup bot

end Run

namespace RunRequest

/-- The result that a state of the run gives. -/
def resultOf (request : RunRequest) (failure : Option RunFailure) (state : RunState) :
    RunResult where
  failure := failure
  output := "\n".intercalate state.output
  steps := state.steps
  transcript := state.transcript
  bindings := state.env.bindings
  bot := state.bot
  event := request.event
  handler := state.handler
  runId := request.metadata.runId

/-- The result of a program text that is none. -/
def rejection (request : RunRequest) (failure : RunFailure) : RunResult :=
  { request.resultOf (some failure) (.initial .empty) with bindings := [] }

/-- What becomes of a run, and what there is to tell about it. -/
def conclude (request : RunRequest) :
    Except Stop Unit × RunState → Except Escape RunResult × List Event
  | (.error (.escape escape), state) => (.error escape, state.journal)
  | (.error (.fault fault), state) =>
    let failure : RunFailure := ⟨fault.cause.kind, fault.describe⟩
    (.ok (request.resultOf (some failure) state),
      state.journal ++ [.runFailed request.metadata.runId failure.report state.bot])
  | (.ok (), state) =>
    let result := request.resultOf none state
    (.ok result,
      state.journal ++
        [.runFinished request.metadata.runId (state.bot.getD "") state.handler result.status.name
          state.steps.length])

/-- A run whose program text is refused. -/
def reject (request : RunRequest) (error : SyntaxError) : Except Escape RunResult × List Event :=
  match error.report with
  | .error escape => (.error escape, [])
  | .ok report =>
    (.ok (request.rejection ⟨report.kind, report.describe⟩),
      [.rejected request.metadata.runId report.describe])

/-- A run, up to its result and what there is to tell about it. -/
def execute (request : RunRequest) : Dialogue (Except Escape RunResult × List Event) :=
  match parseProgram request.source with
  | .error error => return request.reject error
  | .ok program =>
    match request.environment with
    | .error obstacle => return (.error (.unconvertible obstacle), [])
    | .ok env => do return request.conclude (← (Run.program request program).outcome (.initial env))

end RunRequest

end BotScript
