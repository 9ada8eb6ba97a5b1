import BotScript.Host.Limits
import BotScript.Report.Journal
import BotScript.Tool.Result

/-!
Calling a tool: the call is announced, the tool works under the limits of the run, and its answer is
brought into form or becomes a failure. Either way the end of the call is told.
-/

namespace BotScript

/-- A call of a tool under the name that the program gives it. -/
structure ToolCall where
  tool : Tool
  name : String
  args : List (String × Value)

namespace ToolCall

/-- A call with arguments as a host gives them; an empty name stands for the tool's own. -/
def ofHost (tool : Tool) (name : String) (args : Datum) : ToolCall :=
  ⟨tool, if name = "" then tool.name else name,
    match args.toValue with
    | .object entries => entries
    | _ => []⟩

/-- A call as messages about limits name it. -/
def work (call : ToolCall) : String :=
  s!"tool '{call.name}'"

/-- The work of a tool. Some tools hand back work that is awaited under limits of its own. -/
def answer (call : ToolCall) (deadline : Option Deadline) (limit : Option Binary64) :
    Dialogue (Except HostError Datum) := do
  match ← Dialogue.guarded deadline limit call.work
    (Dialogue.query (.tool call.tool call.args)) with
  | .error error => return .error error
  | .ok (.data datum) => return .ok datum
  | .ok .pending =>
    match ← Dialogue.guarded deadline limit call.work (Dialogue.query (.awaitTool call.tool)) with
    | .error error => return .error error
    | .ok (.data datum) => return .ok datum
    | .ok .pending => return .ok (.foreign "pending")

/-- How a call ended: its result, and what is told about its end. -/
structure Ended where
  result : Except Fault ToolResult
  failure : Option String
  output : Option String

/-- A failure that runs know. -/
def refused (fault : Fault) : Ended :=
  ⟨.error fault, some fault.cause.message, none⟩

/-- The end of a call whose work is done. -/
def conclude (call : ToolCall) (work : Except HostError Datum) : Ended :=
  match work.bind (ToolResult.ofDatum call.name) with
  | .error (.runtime fault) => refused fault
  | .error error =>
    ⟨.error (.of (.toolRaised call.name error.typeName error.text)), some error.text, none⟩
  | .ok result =>
    if result.success then ⟨.ok result, none, some result.output⟩
    else ⟨.error (.of (.toolFailed call.name result.output)), some result.output,
      some result.output⟩

/-- The announcement of a call. -/
def announcement (call : ToolCall) (runId : String) : Event :=
  .toolStarting call.tool call.name runId (Datum.ofValue (.object call.args))

/-- What is told about the end of a call. -/
def ending (call : ToolCall) (ended : Ended) : Event :=
  .toolEnded call.tool call.name ended.failure ended.output

/-- A call from its start to its end. -/
def perform (call : ToolCall) (deadline : Option Deadline) (limit : Option Binary64) :
    Dialogue Ended := do
  return call.conclude (← call.answer deadline limit)

end ToolCall

/-- A call that a host makes outside of any program: its result, and what there is to tell about
it. -/
def Catalogue.dispatch (catalogue : Catalogue) (deadline : Option Deadline)
    (limit : Option Binary64) (runId tool name : String) (args : Datum) :
    Dialogue (Except Fault ToolResult × List Event) :=
  match catalogue.require tool with
  | .error cause => return (.error (.of cause), [])
  | .ok tool => do
    let call := ToolCall.ofHost tool name args
    let ended ←
      match args.obstacle? with
      | some obstacle => pure (call.conclude (.error (.ofObstacle obstacle)))
      | none => call.perform deadline limit
    return (ended.result, [.toolStarting tool call.name runId args, call.ending ended])

end BotScript
