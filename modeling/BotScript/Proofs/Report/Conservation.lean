import BotScript.Proofs.Run.Effects
import BotScript.Proofs.Run.Journal
import BotScript.Report.Metrics
import Mathlib.Data.List.Perm.Basic

/-! Metrics count what results show. Every count goes up by one exactly at the events that tell of
what it counts, so the counts over the journals of some runs are read from the results of these
runs. -/

namespace BotScript

theorem StepKind.name_injective {kind other : StepKind} (same : kind.name = other.name) :
    kind = other := by
  cases kind <;> cases other <;> first | rfl | simp [StepKind.name] at same

namespace Metrics

/-- How many statements of a kind have been counted. -/
def stepCount (metrics : Metrics) (kind : StepKind) : Nat :=
  ((Entries.get? metrics.steps kind.name).map StepMetrics.count).getD 0

/-- How many of them have been counted as errors. -/
def stepErrors (metrics : Metrics) (kind : StepKind) : Nat :=
  ((Entries.get? metrics.steps kind.name).map StepMetrics.errors).getD 0

/-- How many calls of a tool have been counted under a status. -/
def callCount (metrics : Metrics) (tool status : String) : Nat :=
  (Entries.get? metrics.calls (tool, status)).getD 0

/-- How many runs of a bot have been counted. -/
def runCount (metrics : Metrics) (bot : String) : Nat :=
  ((Entries.get? metrics.runs bot).map RunMetrics.total).getD 0

/-- How many of them have been counted as failures. -/
def runFailures (metrics : Metrics) (bot : String) : Nat :=
  ((Entries.get? metrics.runs bot).map RunMetrics.failures).getD 0

/-- A count goes up by one at certain events and stays at all others. -/
def CountsAt (reading : Metrics → Nat) (marked : Event → Bool) : Prop :=
  ∀ metrics event, reading (metrics.record event) = reading metrics + if marked event then 1 else 0

/-- A count over a journal is the number of events at which it goes up. -/
theorem CountsAt.recordAll {reading : Metrics → Nat} {marked : Event → Bool}
    (counts : CountsAt reading marked) (metrics : Metrics) (journal : List Event) :
    reading (metrics.recordAll journal) = reading metrics + journal.countP marked := by
  induction journal generalizing metrics with
  | nil => rfl
  | cons event rest ih =>
    calc reading (Metrics.recordAll metrics (event :: rest))
      _ = reading (metrics.record event) + rest.countP marked := ih _
      _ = reading metrics + (event :: rest).countP marked := by
        rw [counts, List.countP_cons]
        omega

/-- A number that is kept for a kind of statements goes up at some of these and stays at all other
events. -/
theorem steps_countsAt (kind : StepKind) (part : StepMetrics → Nat) (marks : Bool → Bool)
    (own : ∀ metrics ok,
      ((Entries.get? (recordStep metrics kind.name .zero ok).steps kind.name).map part).getD 0 =
      ((Entries.get? metrics.steps kind.name).map part).getD 0 + if marks ok then 1 else 0) :
    CountsAt (fun metrics => ((Entries.get? metrics.steps kind.name).map part).getD 0) fun event =>
      (event.statement?.map fun told => decide (told.1 = kind) && marks told.2).getD false := by
  intro metrics event
  cases event with
  | stepEnded ended ok =>
    by_cases same : ended = kind
    · subst same
      simpa [record, Event.statement?] using own metrics ok
    · have other : ended.name ≠ kind.name := fun equal => same (StepKind.name_injective equal)
      simp [record, recordStep, Event.statement?, same, Entries.get?_put_of_ne _ other]
  | runFailed runId report bot => cases bot <;> rfl
  | _ => rfl

theorem stepCount_countsAt (kind : StepKind) :
    CountsAt (stepCount · kind) fun event =>
      (event.statement?.map fun told => decide (told.1 = kind)).getD false := by
  have counts := steps_countsAt kind StepMetrics.count (fun _ => true) fun metrics ok => by
    cases known : Entries.get? metrics.steps kind.name <;> simp [recordStep, known]
  simp only [Bool.and_true] at counts
  exact counts

theorem stepErrors_countsAt (kind : StepKind) :
    CountsAt (stepErrors · kind) fun event =>
      (event.statement?.map fun told => decide (told.1 = kind) && !told.2).getD false :=
  steps_countsAt kind StepMetrics.errors not fun metrics ok => by
    cases known : Entries.get? metrics.steps kind.name <;> cases ok <;> simp [recordStep, known]

theorem callCount_countsAt (tool status : String) :
    CountsAt (callCount · tool status) fun event =>
      (event.call?.map fun call => decide (orUnknown call.1 = tool ∧
      callStatus call.2 = status)).getD false := by
  intro metrics event
  cases event with
  | toolEnded target name failure output =>
    have known : orUnknown (callStatus failure.isNone) = callStatus failure.isNone := by
      cases failure <;> rfl
    by_cases same : orUnknown name = tool ∧ callStatus failure.isNone = status
    · obtain ⟨rfl, rfl⟩ := same
      simp [callCount, record, recordCall, Event.call?, known]
    · have other : (orUnknown name, callStatus failure.isNone) ≠ (tool, status) :=
        fun equal => same (Prod.mk.inj equal)
      simp [callCount, record, recordCall, Event.call?, known, same, Entries.get?_put_of_ne _ other]
  | runFailed runId report bot => cases bot <;> rfl
  | _ => rfl

/-- A number that is kept for a bot goes up at the end of some of its runs and stays at all other
events. -/
theorem runs_countsAt (bot : String) (part : RunMetrics → Nat) (marks : Bool → Bool)
    (own : ∀ metrics success,
      ((Entries.get? (recordRun metrics bot .zero success).runs bot).map part).getD 0 =
      ((Entries.get? metrics.runs bot).map part).getD 0 + if marks success then 1 else 0) :
    CountsAt (fun metrics => ((Entries.get? metrics.runs bot).map part).getD 0) fun event =>
      (event.run?.map fun run => decide (run.1 = bot) && marks run.2).getD false := by
  have ended (metrics : Metrics) (name : String) (success : Bool) :
      ((Entries.get? (recordRun metrics name .zero success).runs bot).map part).getD 0 =
        ((Entries.get? metrics.runs bot).map part).getD 0 +
          if decide (name = bot) && marks success then 1 else 0 := by
    by_cases same : name = bot
    · subst same
      simpa using own metrics success
    · simp [recordRun, same, Entries.get?_put_of_ne _ same]
  intro metrics event
  cases event with
  | runFailed runId report named =>
    cases named with
    | none => rfl
    | some name => exact ended metrics name false
  | runFinished runId name handler status steps => exact ended metrics name true
  | _ => rfl

theorem runCount_countsAt (bot : String) :
    CountsAt (runCount · bot) fun event =>
      (event.run?.map fun run => decide (run.1 = bot)).getD false := by
  have counts := runs_countsAt bot RunMetrics.total (fun _ => true) fun metrics success => by
    cases known : Entries.get? metrics.runs bot <;> simp [recordRun, known]
  simp only [Bool.and_true] at counts
  exact counts

theorem runFailures_countsAt (bot : String) :
    CountsAt (runFailures · bot) fun event =>
      (event.run?.map fun run => decide (run.1 = bot) && !run.2).getD false :=
  runs_countsAt bot RunMetrics.failures not fun metrics success => by
    cases known : Entries.get? metrics.runs bot <;> cases success <;> simp [recordRun, known]

end Metrics

/-- A run that has come to a result: what was asked for, the host that it ran with, and what there
is to tell about it. -/
structure FinishedRun where
  {World : Type}
  request : RunRequest
  host : Host World
  world : World
  result : RunResult
  journal : List Event
  concluded : (request.execute.run host world).1 = (.ok result, journal)

namespace FinishedRun

theorem told (run : FinishedRun) : run.result.Told run.journal := by
  have path := Dialogue.run_path run.host run.request.execute run.world
  rw [run.concluded] at path
  exact RunRequest.execute_told path

variable (runs : List FinishedRun)

/-- The journals of some runs, one behind the other. -/
def journals : List Event :=
  runs.flatMap journal

/-- All records in the results of some runs. -/
def steps : List Step :=
  runs.flatMap fun run => run.result.steps

/-- All entries in the transcripts of some runs. -/
def transcript : List Utterance :=
  runs.flatMap fun run => run.result.transcript

theorem journals_statements :
    (Event.statements (journals runs)).Perm ((steps runs).map Step.told) := by
  rw [Event.statements, journals, List.filterMap_flatMap, steps, List.map_flatMap]
  exact List.Perm.flatMap_left runs fun run _ => run.told.statements

theorem journals_calls :
    (Event.calls (journals runs)).map Prod.fst = (transcript runs).filterMap Utterance.tool? := by
  rw [Event.calls, journals, List.filterMap_flatMap, transcript, List.filterMap_flatMap,
    List.map_flatMap]
  exact List.flatMap_congr fun run _ => run.told.calls

theorem journals_answered :
    (Event.answered (journals runs)).Perm ((steps runs).filterMap Step.served?) := by
  rw [Event.answered, Event.calls, journals, List.filterMap_flatMap, List.filterMap_flatMap, steps,
    List.filterMap_flatMap]
  exact List.Perm.flatMap_left runs fun run _ => run.told.answered

theorem journals_named : ∀ call ∈ Event.calls (journals runs), call.1 ≠ "" := by
  intro call member
  rw [Event.calls, journals, List.filterMap_flatMap] at member
  obtain ⟨run, -, told⟩ := List.mem_flatMap.mp member
  exact run.told.named call told

theorem journals_runs : Event.runs (journals runs) =
    runs.filterMap fun run => run.result.bot.map fun bot => (bot, run.result.success) := by
  rw [Event.runs, journals, List.filterMap_flatMap, List.filterMap_eq_flatMap_toList]
  exact List.flatMap_congr fun run _ => run.told.runs

end FinishedRun

namespace Metrics

open FinishedRun

/-- The counts are those of the results of some runs. -/
structure Conserves (metrics : Metrics) (finished : List FinishedRun) : Prop where
  counts : ∀ kind, metrics.stepCount kind =
      (FinishedRun.steps finished).countP fun record => record.kind = kind
  errors : ∀ kind, metrics.stepErrors kind =
    (FinishedRun.steps finished).countP fun record => record.kind = kind && record.outcome ≠ .ok
  /-- Every call that a transcript notes has ended well or with an error. -/
  calls : ∀ tool, metrics.callCount tool "ok" + metrics.callCount tool "error" =
    (transcript finished).countP fun entry => entry.tool? = some tool
  /-- A call has ended well exactly when the statement that made it has. -/
  answered : ∀ tool, metrics.callCount tool "ok" =
    (FinishedRun.steps finished).countP fun record =>
      record.runsTool && record.outcome = .ok && record.noted? "tool" = some tool
  runs : ∀ bot, metrics.runCount bot = finished.countP fun run => run.result.bot = some bot
  failures : ∀ bot, metrics.runFailures bot =
    finished.countP fun run => run.result.bot = some bot && !run.result.success

variable (runs : List FinishedRun)

private theorem countP_calls (tool : String) (ok : Bool) :
    (empty.recordAll (journals runs)).callCount tool (callStatus ok) =
      (Event.calls (journals runs)).countP fun call => call.1 = tool && call.2 = ok := by
  rw [(callCount_countsAt tool (callStatus ok)).recordAll, ← List.countP_filterMap]
  refine (Nat.zero_add _).trans (List.countP_congr fun call member => ?_)
  have named : orUnknown call.1 = call.1 := if_neg (journals_named runs call member)
  have status : callStatus call.2 = callStatus ok ↔ call.2 = ok := by
    cases call.2 <;> cases ok <;> simp [callStatus]
  simp [named, status]

/-- The transcripts note the calls of a tool that the journals tell of. -/
private theorem countP_transcript (tool : String) :
    (transcript runs).countP (fun entry => entry.tool? = some tool) =
      (Event.calls (journals runs)).countP fun call => call.1 = tool :=
  calc (transcript runs).countP (fun entry => entry.tool? = some tool)
    _ = ((transcript runs).filterMap Utterance.tool?).countP (fun name => name = tool) := by
      rw [List.countP_filterMap]
      refine List.countP_congr fun entry _ => ?_
      cases entry.tool? <;> simp
    _ = (Event.calls (journals runs)).countP fun call => call.1 = tool := by
      rw [← journals_calls, List.countP_map]
      rfl

/-- The calls of a tool that ended well are those of the statements that did. -/
private theorem countP_answered (tool : String) :
    ((Event.calls (journals runs)).countP fun call => call.1 = tool && call.2 = true) =
      (FinishedRun.steps runs).countP fun record =>
        record.runsTool && record.outcome = .ok && record.noted? "tool" = some tool :=
  calc (Event.calls (journals runs)).countP (fun call => call.1 = tool && call.2 = true)
    _ = (Event.answered (journals runs)).countP (fun name => name = tool) := by
      rw [Event.answered, List.countP_filterMap]
      refine List.countP_congr fun call _ => ?_
      cases call.2 <;> simp
    _ = ((FinishedRun.steps runs).filterMap Step.served?).countP (fun name => name = tool) :=
      (journals_answered runs).countP_eq _
    _ = _ := by
      rw [List.countP_filterMap]
      refine List.countP_congr fun record _ => ?_
      unfold Step.served?
      cases record.runsTool && decide (record.outcome = .ok) <;> cases record.noted? "tool" <;> simp

/-- Whatever programs, tools, memories, clocks and cancellations do: metrics that have recorded some
runs count what the results of these runs show. -/
theorem recordAll_conserves : (empty.recordAll (journals runs)).Conserves runs where
  counts kind := by
    rw [(stepCount_countsAt kind).recordAll, ← List.countP_filterMap]
    refine (Nat.zero_add _).trans (((journals_statements runs).countP_eq _).trans ?_)
    rw [List.countP_map]
    rfl
  errors kind := by
    rw [(stepErrors_countsAt kind).recordAll, ← List.countP_filterMap]
    refine (Nat.zero_add _).trans (((journals_statements runs).countP_eq _).trans ?_)
    rw [List.countP_map]
    refine List.countP_congr fun record _ => ?_
    by_cases well : record.outcome = .ok <;> simp [Step.told, well]
  calls tool := by
    rw [countP_transcript, List.countP_eq_countP_filter_add _ _ Prod.snd, List.countP_filter,
      List.countP_filter]
    refine congrArg₂ _ ((countP_calls runs tool true).trans ?_)
      ((countP_calls runs tool false).trans ?_)
    · exact List.countP_congr fun call _ => by simp
    · exact List.countP_congr fun call _ => by simp
  answered tool := (countP_calls runs tool true).trans (countP_answered runs tool)
  runs bot := by
    rw [(runCount_countsAt bot).recordAll, ← List.countP_filterMap]
    refine (Nat.zero_add _).trans ((congrArg _ (journals_runs runs)).trans ?_)
    rw [List.countP_filterMap]
    refine List.countP_congr fun run _ => ?_
    cases run.result.bot <;> simp
  failures bot := by
    rw [(runFailures_countsAt bot).recordAll, ← List.countP_filterMap]
    refine (Nat.zero_add _).trans ((congrArg _ (journals_runs runs)).trans ?_)
    rw [List.countP_filterMap]
    refine List.countP_congr fun run _ => ?_
    cases run.result.bot <;> simp

/-- The same request with a host whose tool works and with one whose tool does nothing but raise an
error. -/
theorem busyTwice_conserves : ∃ runs : List FinishedRun,
    (runs.map fun run => (run.result.success, run.result.transcript.length)) =
        [(true, 2), (false, 1)] ∧
      (empty.recordAll (journals runs)).Conserves runs := by
  have first :
      ((RunRequest.busy.execute.run World.host RunRequest.busyWorld).1.1.toOption.any fun result =>
      (result.success, result.transcript.length) = (true, 2)) = true := by decide +kernel
  have second : ((RunRequest.busy.execute.run World.host (.bare [])).1.1.toOption.any fun result =>
      (result.success, result.transcript.length) = (false, 1)) = true := by decide +kernel
  obtain ⟨result, journal, worked, first⟩ := concluded_of_any first
  obtain ⟨result', journal', failed, second⟩ := concluded_of_any second
  let runs : List FinishedRun :=
    [⟨_, World.host, _, result, journal, worked⟩, ⟨_, World.host, _, result', journal', failed⟩]
  have shown : (runs.map fun run => (run.result.success, run.result.transcript.length)) =
      [(true, 2), (false, 1)] := by
    simp only [runs, List.map, of_decide_eq_true first, of_decide_eq_true second]
  exact ⟨runs, shown, recordAll_conserves runs⟩

end Metrics

end BotScript
