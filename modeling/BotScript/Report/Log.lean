import BotScript.Report.Journal
import BotScript.Report.Redaction

/-!
Log lines. How much is told about tool calls depends on a level; everything else is always told.
-/

namespace BotScript

/-- A line of a log: its template and the arguments that fill it. -/
structure LogLine where
  logger : String
  level : String
  template : String
  args : List Datum

/-- How much is told about tool calls. -/
inductive ToolLogging
  | debug
  | info
  | quiet
deriving DecidableEq, Repr

namespace ToolLogging

def name : ToolLogging → String
  | debug => "debug"
  | info => "info"
  | quiet => "quiet"

/-- The level that a text names; other texts name the usual one. -/
def ofText (text : String) : ToolLogging :=
  let word := Text.lower (Text.strip text)
  if word = "debug" then debug else if word = "quiet" then quiet else info

end ToolLogging

namespace LogLine

def engine (level template : String) (args : List Datum) : LogLine :=
  ⟨"hivelang.engine", level, template, args⟩

def tools (level template : String) (args : List Datum) : LogLine :=
  ⟨"hivelang.tools", level, template, args⟩

/-- The name under which a call is logged. -/
def callName (ownName : String) (payload : List (Datum.Key × Datum)) : Datum :=
  match Datum.field? payload "tool" with
  | some name => if name.isVoid then .text ownName else name
  | none => .text ownName

/-- A field of a notice, null when it is missing. -/
def part (payload : List (Datum.Key × Datum)) (name : String) : Datum :=
  (Datum.field? payload name).getD .null

/-- The named values that a call gets. -/
def arguments : Datum → List (Datum.Key × Datum)
  | .mapping entries => entries
  | _ => []

/-- The lines about a call that is about to start. -/
def starting (redaction : Redaction) (level : ToolLogging) (ownName : String)
    (payload : List (Datum.Key × Datum)) :
    List LogLine :=
  let name := callName ownName payload
  match level with
  | .debug =>
    [tools "DEBUG" "Tool %s run=%s args=%s"
      [name, part payload "run_id", .mapping (redaction.mapping (arguments (part payload "args")))]]
  | .info => [tools "INFO" "Tool %s run=%s" [name, part payload "run_id"]]
  | .quiet => []

/-- The start of an output. -/
def snippet : Datum → Datum
  | .text s => .text (String.ofList (s.toList.take 200))
  | other => other

/-- The lines about a call that has ended. -/
def ended (level : ToolLogging) (ownName : String) (payload : List (Datum.Key × Datum)) :
    List LogLine :=
  let name := callName ownName payload
  let ok := (Datum.field? payload "ok").getD (.boolean true)
  let failed := tools (if level = .info then "WARNING" else "ERROR") "Tool %s failed error=%s"
    [name, part payload "error"]
  match level with
  | .debug =>
    [tools "DEBUG" "Tool %s completed ok=%s duration=%s error=%s output=%s"
      [name, ok, .null, part payload "error", snippet (part payload "output")]]
  | _ => if ok.isVoid then [failed] else []

/-- The line about a listener that raised an error. -/
def listener : LogLine :=
  tools "DEBUG" "Tool interceptor raised" []

end LogLine

/-- The lines about an event, apart from those about listeners. -/
def Event.logLines (redaction : Redaction) (level : ToolLogging) (event : Event) : List LogLine :=
  match event with
  | .toolStarting tool .. => LogLine.starting redaction level tool.name (event.payload?.getD [])
  | .toolEnded tool .. => LogLine.ended level tool.name (event.payload?.getD [])
  | .stepEnded .. => []
  | .listenerRaised => [.engine "DEBUG" "on_step callback raised" []]
  | .rejected runId report =>
    [.engine "INFO" "Run %s rejected before execution: %s" [.text runId, .text report]]
  | .runFailed runId report _ => [.engine "INFO" "Run %s failed: %s" [.text runId, .text report]]
  | .unanswered runId =>
    [.engine "INFO" "Run %s: no handler matched, returning empty fallback" [.text runId]]
  | .runFinished runId bot handler status steps =>
    [.engine "INFO" "Run %s bot=%s handler=%s status=%s steps=%d"
      [.text runId, .text bot, (handler.map fun i : Nat => Datum.integer i).getD .null,
        .text status, .integer steps]]

end BotScript
