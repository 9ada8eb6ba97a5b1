import BotScript.Datum.Basic
import BotScript.Run.Trace
import BotScript.Tool.Catalogue

/-!
Everything worth telling about runs, in order. Log lines, notices to listeners and metrics are all
drawn from it.
-/

namespace BotScript

/-- Something that happened. -/
inductive Event
  /-- A tool is about to be called, under some name. -/
  | toolStarting (tool : Tool) (name runId : String) (args : Datum)
  /-- A call has ended; `failure` is its error text. -/
  | toolEnded (tool : Tool) (name : String) (failure output : Option String)
  | stepEnded (kind : StepKind) (ok : Bool)
  /-- The host could not be told about a statement. -/
  | listenerRaised
  /-- The program text was refused. -/
  | rejected (runId report : String)
  | runFailed (runId report : String) (bot : Option String)
  /-- No handler answers the event, and that is no error. -/
  | unanswered (runId : String)
  | runFinished (runId bot : String) (handler : Option Nat) (status : String) (steps : Nat)

namespace Event

/-- A text that may be missing, as host data. -/
def optionalText : Option String → Datum
  | none => .null
  | some s => .text s

/-- What listeners are told about a call of a tool. -/
def payload? : Event → Option (List (Datum.Key × Datum))
  | toolStarting _ name runId args =>
    some [(.text "tool", .text name), (.text "run_id", .text runId), (.text "args", args)]
  | toolEnded _ name failure output =>
    some [(.text "tool", .text name), (.text "ok", .boolean failure.isNone),
      (.text "error", optionalText failure), (.text "output", optionalText output)]
  | _ => none

end Event

end BotScript
