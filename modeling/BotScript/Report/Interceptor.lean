import BotScript.Report.Log

/-!
Host code that listens to tool calls: some of it before a call starts, some after it has ended.
Listening never disturbs a call; an error that a listener raises becomes a log line.
-/

namespace BotScript

/-- What a listener does with what it hears. -/
inductive Interceptor
  | recording
  | failing
deriving DecidableEq, Repr

/-- The listeners of all calls. -/
structure Interceptors where
  before : List Interceptor
  after : List Interceptor

/-- What a recording listener keeps of a call. -/
structure Notice where
  /-- The call is about to start, or else has ended. -/
  starting : Bool
  tool : Tool
  payload : List (Datum.Key × Datum)

namespace Interceptors

/-- The listeners that hear of an event, and the tool that it is about. -/
def audience (interceptors : Interceptors) : Event → List Interceptor × Option Tool
  | .toolStarting tool .. => (interceptors.before, some tool)
  | .toolEnded tool .. => (interceptors.after, some tool)
  | _ => ([], none)

/-- What is recorded of an event. -/
def notices (interceptors : Interceptors) (event : Event) : List Notice :=
  match interceptors.audience event with
  | (listeners, some tool) =>
    (listeners.filter (· = .recording)).map fun _ =>
      ⟨event matches .toolStarting .., tool, event.payload?.getD []⟩
  | _ => []

/-- The log lines about an event and about the listeners that raise an error over it. -/
def logLines (interceptors : Interceptors) (redaction : Redaction) (level : ToolLogging)
    (event : Event) :
    List LogLine :=
  event.logLines redaction level ++
    ((interceptors.audience event).1.filter (· = .failing)).map fun _ => .listener

end Interceptors

end BotScript
