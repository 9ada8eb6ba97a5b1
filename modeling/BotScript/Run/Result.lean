import BotScript.Run.Trace

/-!
The result of a run: what was said, the records and the variables at its end, and the failure if
there is one.
-/

namespace BotScript

/-- A failure as results report it. -/
structure RunFailure where
  kind : ErrorKind
  report : String
deriving DecidableEq, Repr

inductive RunStatus
  | completed
  /-- The run succeeded without saying anything. -/
  | emptyOutput
  | failed
deriving DecidableEq, Repr

def RunStatus.name : RunStatus → String
  | completed => "completed"
  | emptyOutput => "empty_output"
  | failed => "failed"

/-- The result of a run. -/
structure RunResult where
  failure : Option RunFailure
  output : String
  steps : List Step
  transcript : List Utterance
  bindings : List (String × Value)
  bot : Option String
  event : String
  handler : Option Nat
  runId : String

namespace RunResult

def success (result : RunResult) : Bool :=
  result.failure.isNone

def status (result : RunResult) : RunStatus :=
  if result.failure.isSome then .failed else if result.output = "" then .emptyOutput else .completed

/-- The fields that tell of a failure. -/
def failureFields : Option RunFailure → List (String × Value)
  | none => []
  | some failure => [("error", .text failure.report), ("error_kind", .text failure.kind.name)]

/-- A result as data; a `timed` one has durations, which nobody measures. -/
def data (timed : Bool) (result : RunResult) : Value :=
  .object ([
    ("success", .boolean result.success),
    ("status", .text result.status.name),
    ("output", .text result.output),
    ("steps", .array (result.steps.map (Step.data timed))),
    ("transcript", .array (result.transcript.map Utterance.data)),
    ("variables", .object result.bindings),
    ("bot", .ofText? result.bot),
    ("event", .text result.event),
    ("handler_index", (result.handler.map fun i : Nat => Value.integer i).getD .null),
    ("run_id", .text result.runId)] ++
    failureFields result.failure ++
    if timed then [("duration_seconds", .integer 0)] else [])

end RunResult

end BotScript
