import BotScript.Fault

/-!
What a run leaves behind: a record of every statement that was started, and the transcript of what
was said and called.
-/

namespace BotScript

/-- The kinds of statements that records name. -/
inductive StepKind
  | say
  | ask
  | set
  | call
  | branch
  | loop
  | remember
  | recollect
deriving DecidableEq, Repr

def StepKind.name : StepKind → String
  | say => "say"
  | ask => "ask_ai"
  | set => "set"
  | call => "call"
  | branch => "if"
  | loop => "loop"
  | remember => "remember"
  | recollect => "recall"

/-- How a statement ended. A failure is kept as results report it. -/
inductive StepOutcome
  | running
  | ok
  | failed (report : String)
  | cancelled (report : String)
deriving DecidableEq, Repr

namespace StepOutcome

def name : StepOutcome → String
  | running => "running"
  | ok => "ok"
  | failed _ => "error"
  | cancelled _ => "cancelled"

/-- The failure that ended a statement. -/
def report? : StepOutcome → Option String
  | failed report | cancelled report => some report
  | _ => none

/-- The end that a failure gives to the statement it is raised in. -/
def ofFault (fault : Fault) : StepOutcome :=
  if fault.cause.kind = .cancelled then cancelled fault.describe else failed fault.describe

end StepOutcome

/-- The record of a statement. Records are numbered in the order in which the statements started. -/
structure Step where
  index : Nat
  kind : StepKind
  line : Nat
  summary : List (String × Value)
  outcome : StepOutcome

/-- The record of a statement as data; `timed` records say how long it took, which nobody
measures. -/
def Step.data (timed : Bool) (step : Step) : Value :=
  .object ([
    ("index", .integer step.index),
    ("kind", .text step.kind.name),
    ("line", .integer step.line),
    ("summary", .object step.summary),
    ("outcome", .text step.outcome.name),
    ("error", .ofText? step.outcome.report?)] ++
    if timed then [("duration_seconds", .integer 0)] else [])

/-- An entry of the transcript. -/
inductive Utterance
  | said (text : String)
  | called (tool : String) (args : List (String × Value))

def Utterance.data : Utterance → Value
  | said text => .object [("type", .text "say"), ("payload", .text text)]
  | called tool args =>
    .object [("type", .text "call"), ("tool", .text tool), ("args", .object args)]

end BotScript
