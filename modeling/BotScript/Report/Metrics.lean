import BotScript.Number.Binary64
import BotScript.Report.Journal

/-!
Counts and durations of statements, tool calls and runs. Averages are carried along, so a later
duration changes them by rounding as it comes.
-/

namespace BotScript

/-- The statements of one kind. -/
structure StepMetrics where
  count : Nat
  total : Binary64
  errors : Nat

/-- The runs of one bot. -/
structure RunMetrics where
  total : Nat
  average : Binary64
  failures : Nat

/-- The calls of one tool, all together. -/
structure Latency where
  total : Binary64
  count : Nat

/-- The average duration of the calls of a tool. -/
def Latency.average (latency : Latency) : Binary64 :=
  if latency.count = 0 then .zero else latency.total.div (.ofInt latency.count)

structure Metrics where
  steps : List (String × StepMetrics)
  runs : List (String × RunMetrics)
  /-- Calls by tool and status. -/
  calls : List ((String × String) × Nat)
  latencies : List (String × Latency)

namespace Metrics

def empty : Metrics := ⟨[], [], [], []⟩

def recordStep (metrics : Metrics) (kind : String) (duration : Binary64) (ok : Bool) : Metrics :=
  let before := (Entries.get? metrics.steps kind).getD ⟨0, .zero, 0⟩
  let after : StepMetrics :=
    ⟨before.count + 1, before.total.add duration, if ok then before.errors else before.errors + 1⟩
  { metrics with steps := Entries.put metrics.steps kind after }

def recordRun (metrics : Metrics) (bot : String) (duration : Binary64) (success : Bool) : Metrics :=
  let before := (Entries.get? metrics.runs bot).getD ⟨0, .zero, 0⟩
  let sum := (before.average.mul (.ofInt before.total)).add duration
  let after : RunMetrics :=
    ⟨before.total + 1, sum.div (.ofInt (before.total + 1)),
      if success then before.failures else before.failures + 1⟩
  { metrics with runs := Entries.put metrics.runs bot after }

/-- A name, or a word that stands for a missing one. -/
def orUnknown (name : String) : String :=
  if name = "" then "unknown" else name

def recordCall (metrics : Metrics) (tool status : String) (duration : Binary64) : Metrics :=
  let key := (orUnknown tool, orUnknown status)
  let latency := (Entries.get? metrics.latencies tool).getD ⟨.zero, 0⟩
  { metrics with
    calls := Entries.put metrics.calls key ((Entries.get? metrics.calls key).getD 0 + 1)
    latencies := Entries.put metrics.latencies tool
      ⟨latency.total.add duration.atLeastZero, latency.count + 1⟩ }

/-- The status of a call in counts. -/
def callStatus (ok : Bool) : String :=
  if ok then "ok" else "error"

/-- What an event adds. Nobody measures how long things take, so durations count as zero. -/
def record (metrics : Metrics) (event : Event) : Metrics :=
  match event with
  | .toolEnded _ name failure _ => metrics.recordCall name (callStatus failure.isNone) .zero
  | .stepEnded kind ok => metrics.recordStep kind.name .zero ok
  | .runFailed _ _ (some bot) => metrics.recordRun bot .zero false
  | .runFinished _ bot .. => metrics.recordRun bot .zero true
  | _ => metrics

/-- What a journal adds. -/
def recordAll (metrics : Metrics) (journal : List Event) : Metrics :=
  journal.foldl record metrics

end Metrics

end BotScript
