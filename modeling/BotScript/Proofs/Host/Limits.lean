import BotScript.Memory.Calls
import BotScript.Proofs.Host.Exchange
import BotScript.Tool.Call

/-! Work under limits starts at most once. Whatever the limits decide, a tool is run and the memory
is called no more than one time, and if the work comes to something, exactly one time. -/

namespace BotScript

/-- What has come to something has not failed. -/
theorem not_failed {ε α : Type} {value : α} :
    ¬ ∃ error : ε, (.ok value : Except ε α) = .error error := by
  rintro ⟨error, impossible⟩
  cases impossible

namespace Exchange

/-- Nothing is asked but for the time and for work that is already under way. -/
structure Quiet (asked : List Exchange) : Prop where
  told : told asked = []
  runs : toolRuns asked = []
  calls : memoryCalls asked = []

theorem quiet_nil : Quiet [] := ⟨rfl, rfl, rfl⟩

theorem Quiet.append {front back : List Exchange} (first : Quiet front) (second : Quiet back) :
    Quiet (front ++ back) :=
  ⟨by simp [first.told, second.told], by simp [first.runs, second.runs],
    by simp [first.calls, second.calls]⟩

theorem quiet_observe (moment : Moment) : Quiet [⟨.observe, moment⟩] := ⟨rfl, rfl, rfl⟩

theorem quiet_awaitTool (tool : Tool) (completion : Completion) :
    Quiet [⟨.awaitTool tool, completion⟩] :=
  ⟨rfl, rfl, rfl⟩

variable {front back : List Exchange}

theorem told_around (before : Quiet front) (behind : Quiet back) (middle : List Exchange) :
    told (front ++ (middle ++ back)) = told middle := by
  simp [before.told, behind.told]

theorem toolRuns_around (before : Quiet front) (behind : Quiet back) (middle : List Exchange) :
    toolRuns (front ++ (middle ++ back)) = toolRuns middle := by
  simp [before.runs, behind.runs]

theorem memoryCalls_around (before : Quiet front) (behind : Quiet back) (middle : List Exchange) :
    memoryCalls (front ++ (middle ++ back)) = memoryCalls middle := by
  simp [before.calls, behind.calls]

end Exchange

namespace Dialogue

open Exchange

variable {asked : List Exchange} {result : Except HostError Yield}

private theorem refuse_path {α : Type} {cause : Cause} {given : Except HostError α}
    (path : Path (refuse cause) asked given) :
    asked = [] ∧ given = .error (.runtime (.of cause)) :=
  path_done_iff.mp path

/-- What follows work only looks at the time. -/
theorem settle_quiet {deadline : Option Deadline} {bound : Bound} {work : String}
    {completion : Completion} (path : Path (settle deadline bound work completion) asked result) :
    Quiet asked := by
  cases completion with
  | raised error =>
    obtain ⟨rfl, -⟩ := path_done_iff.mp path
    exact quiet_nil
  | returned datum | pending =>
    obtain ⟨moment, front, back, observed, rest, rfl⟩ := path_bind_iff.mp path
    obtain rfl := path_query_iff.mp observed
    split at rest
    · obtain ⟨rfl, -⟩ := refuse_path rest
      exact quiet_observe moment
    · obtain ⟨rfl, -⟩ := path_pure_iff.mp rest
      exact quiet_observe moment
  | withdrawn =>
    obtain ⟨moment, front, back, observed, rest, rfl⟩ := path_bind_iff.mp path
    obtain rfl := path_query_iff.mp observed
    split at rest
    · obtain ⟨rfl, -⟩ := refuse_path rest
      exact quiet_observe moment
    · obtain ⟨rfl, -⟩ := path_pure_iff.mp rest
      exact quiet_observe moment
  | hung =>
    obtain ⟨moment, front, back, observed, rest, rfl⟩ := path_bind_iff.mp path
    obtain rfl := path_query_iff.mp observed
    obtain ⟨rfl, -⟩ := refuse_path rest
    exact quiet_observe moment

/-- Work under limits is not started, or it is started once and only the time is looked at around
it. -/
theorem guarded_path {deadline : Option Deadline} {own : Option Binary64} {work : String}
    {start : Dialogue Completion} (path : Path (guarded deadline own work start) asked result) :
    (Quiet asked ∧ ∃ error, result = .error error) ∨
      ∃ front middle back completion, asked = front ++ (middle ++ back) ∧ Quiet front ∧ Quiet back ∧
        start.Path middle completion := by
  obtain ⟨moment, front, back, observed, rest, rfl⟩ := path_bind_iff.mp path
  obtain rfl := path_query_iff.mp observed
  split at rest
  · obtain ⟨rfl, rfl⟩ := refuse_path rest
    exact .inl ⟨quiet_observe moment, _, rfl⟩
  · obtain ⟨completion, middle, behind, started, settled, rfl⟩ := path_bind_iff.mp rest
    exact .inr ⟨_, middle, behind, completion, rfl, quiet_observe moment,
      settle_quiet settled, started⟩

/-- Work under limits that comes to something was started, and its end was settled. -/
theorem guarded_ok {deadline : Option Deadline} {own : Option Binary64} {work : String}
    {start : Dialogue Completion} {yield : Yield}
    (path : Path (guarded deadline own work start) asked (.ok yield)) :
    ∃ front middle back completion bound, asked = front ++ (middle ++ back) ∧ Quiet front ∧
      start.Path middle completion ∧
      (settle deadline bound work completion).Path back (.ok yield) := by
  obtain ⟨moment, front, back, observed, rest, rfl⟩ := path_bind_iff.mp path
  obtain rfl := path_query_iff.mp observed
  split at rest
  · cases (refuse_path rest).2
  · obtain ⟨completion, middle, behind, started, settled, rfl⟩ := path_bind_iff.mp rest
    exact ⟨_, middle, behind, completion, _, rfl, quiet_observe moment, started, settled⟩

/-- Data that work returned is what the work comes to, unless it fails. -/
theorem settle_returned {deadline : Option Deadline} {bound : Bound} {work : String} {datum : Datum}
    {yield : Yield} (path : Path (settle deadline bound work (.returned datum)) asked (.ok yield)) :
    yield = .data datum := by
  obtain ⟨moment, front, back, observed, rest, rfl⟩ := path_bind_iff.mp path
  split at rest
  · cases (refuse_path rest).2
  · exact Except.ok.inj (path_pure_iff.mp rest).2

end Dialogue

namespace MemoryAccess

open Dialogue Exchange

variable {access : MemoryAccess} {call : MemoryCall} {asked : List Exchange}

/-- The memory is asked for nothing but this call, and for this one unless the access fails. -/
structure Single (call : MemoryCall) (asked : List Exchange) (fails : Prop) : Prop where
  told : told asked = []
  runs : toolRuns asked = []
  calls : memoryCalls asked = [call] ∨ (memoryCalls asked = [] ∧ fails)

theorem Single.imp {fails otherwise : Prop} (single : Single call asked fails)
    (implies : fails → otherwise) :
    Single call asked otherwise :=
  ⟨single.told, single.runs, single.calls.imp_right (And.imp_right implies)⟩

theorem perform_path {result : Except Fault Datum}
    (path : Path (access.perform call) asked result) :
    Single call asked (∃ fault, result = .error fault) := by
  unfold perform at path
  split at path
  · obtain ⟨given, front, back, guarded, rest, rfl⟩ := path_bind_iff.mp path
    obtain ⟨rfl, rfl⟩ := path_pure_iff.mp rest
    rw [List.append_nil]
    rcases guarded_path guarded with ⟨quiet, error, rfl⟩ |
      ⟨front, middle, back, completion, rfl, before, behind, started⟩
    · exact ⟨quiet.told, quiet.runs, .inr ⟨quiet.calls, _, rfl⟩⟩
    · obtain rfl := path_query_iff.mp started
      exact ⟨told_around before behind _, toolRuns_around before behind _,
        .inl (memoryCalls_around before behind _)⟩
  · obtain ⟨rfl, rfl⟩ := path_pure_iff.mp path
    exact ⟨rfl, rfl, .inr ⟨rfl, _, rfl⟩⟩

theorem write_path {result : Except Fault Unit} (path : Path (access.write call) asked result) :
    Single call asked (∃ fault, result = .error fault) := by
  obtain ⟨given, front, back, performed, rest, rfl⟩ := path_bind_iff.mp path
  obtain ⟨rfl, rfl⟩ := path_pure_iff.mp rest
  rw [List.append_nil]
  refine (perform_path performed).imp ?_
  rintro ⟨fault, rfl⟩
  exact ⟨fault, rfl⟩

theorem read_path {key : String} {result : Except Stop Value}
    (path : Path (access.read key) asked result) :
    Single (.get key) asked (∃ stop, result = .error stop) := by
  obtain ⟨given, front, back, performed, rest, rfl⟩ := path_bind_iff.mp path
  have single := perform_path performed
  cases given with
  | error fault =>
    obtain ⟨rfl, rfl⟩ := path_pure_iff.mp rest
    rw [List.append_nil]
    exact single.imp fun _ => ⟨_, rfl⟩
  | ok datum =>
    obtain ⟨rfl, rfl⟩ := path_pure_iff.mp rest
    rw [List.append_nil]
    exact single.imp fun failed => absurd failed not_failed

/-- Declared variables are read one after the other, all of them unless one of the reads fails. -/
theorem hydrate_path {slots : List (String × Slot)} {result : Except Stop (List (String × Value))}
    (path : Path (access.hydrate slots) asked result) :
    told asked = [] ∧ toolRuns asked = [] ∧
      memoryCalls asked <+: slots.map (fun slot => .get slot.2.key) ∧
      (∀ values, result = .ok values →
        memoryCalls asked = slots.map fun slot => .get slot.2.key) := by
  induction slots generalizing asked result with
  | nil =>
    obtain ⟨rfl, rfl⟩ := path_pure_iff.mp path
    simp
  | cons slot rest ih =>
    obtain ⟨given, front, back, first, later, rfl⟩ := path_bind_iff.mp path
    obtain ⟨told, runs, calls⟩ := read_path first
    cases given with
    | error stop =>
      obtain ⟨rfl, rfl⟩ := path_pure_iff.mp later
      rcases calls with calls | ⟨calls, -⟩ <;> simp [told, runs, calls]
    | ok value =>
      obtain ⟨values, front', back', others, last, rfl⟩ := path_bind_iff.mp later
      obtain ⟨told', runs', calls', whole⟩ := ih others
      have once : memoryCalls front = [.get slot.2.key] := by simpa using calls
      cases values with
      | error stop =>
        obtain ⟨rfl, rfl⟩ := path_pure_iff.mp last
        simp [told, runs, told', runs', once, calls']
      | ok values =>
        obtain ⟨rfl, rfl⟩ := path_pure_iff.mp last
        simp [told, runs, told', runs', once, whole values rfl]

end MemoryAccess

namespace ToolCall

open Dialogue Exchange

variable {call : ToolCall} {deadline : Option Deadline} {limit : Option Binary64}
  {asked : List Exchange}

/-- The tool is run once, or else the call fails without it. -/
structure Single (call : ToolCall) (asked : List Exchange) (fails : Prop) : Prop where
  told : told asked = []
  calls : memoryCalls asked = []
  runs : toolRuns asked = [(call.tool, call.args)] ∨ (toolRuns asked = [] ∧ fails)

theorem Single.imp {fails otherwise : Prop} (single : Single call asked fails)
    (implies : fails → otherwise) :
    Single call asked otherwise :=
  ⟨single.told, single.calls, single.runs.imp_right (And.imp_right implies)⟩

private theorem started_path {result : Except HostError Yield}
    (path : Path (guarded deadline limit call.work (query (.tool call.tool call.args)))
      asked result) :
    Single call asked (∃ error, result = .error error) := by
  rcases guarded_path path with ⟨quiet, failed⟩ |
    ⟨front, middle, back, completion, rfl, before, behind, started⟩
  · exact ⟨quiet.told, quiet.calls, .inr ⟨quiet.runs, failed⟩⟩
  · obtain rfl := path_query_iff.mp started
    exact ⟨told_around before behind _, memoryCalls_around before behind _,
      .inl (toolRuns_around before behind _)⟩

private theorem awaited_quiet {tool : Tool} {work : String} {result : Except HostError Yield}
    (path : Path (guarded deadline limit work (query (.awaitTool tool))) asked result) :
    Quiet asked := by
  rcases guarded_path path with ⟨quiet, -⟩ |
    ⟨front, middle, back, completion, rfl, before, behind, started⟩
  · exact quiet
  · obtain rfl := path_query_iff.mp started
    exact before.append ((quiet_awaitTool tool completion).append behind)

theorem answer_path {result : Except HostError Datum}
    (path : Path (call.answer deadline limit) asked result) :
    Single call asked (∃ error, result = .error error) := by
  obtain ⟨given, front, back, started, rest, rfl⟩ := path_bind_iff.mp path
  have single := started_path started
  match given with
  | .error error =>
    obtain ⟨rfl, rfl⟩ := path_pure_iff.mp rest
    rw [List.append_nil]
    exact single.imp fun _ => ⟨error, rfl⟩
  | .ok (.data datum) =>
    obtain ⟨rfl, rfl⟩ := path_pure_iff.mp rest
    rw [List.append_nil]
    exact single.imp fun failed => absurd failed not_failed
  | .ok .pending =>
    have once : toolRuns front = [(call.tool, call.args)] := by simpa using single.runs
    obtain ⟨waited, front', back', awaited, last, rfl⟩ := path_bind_iff.mp rest
    have quiet := awaited_quiet awaited
    have silent : back' = [] := by
      match waited with
      | .error error => exact (path_pure_iff.mp last).1
      | .ok (.data datum) => exact (path_pure_iff.mp last).1
      | .ok .pending => exact (path_pure_iff.mp last).1
    subst silent
    exact ⟨by simp [single.told, quiet.told], by simp [single.calls, quiet.calls],
      .inl (by simp [once, quiet.runs])⟩

private theorem conclude_error (call : ToolCall) (error : HostError) :
    ∃ fault, (call.conclude (.error error)).result = .error fault := by
  cases error <;> exact ⟨_, rfl⟩

theorem perform_path {ended : Ended} (path : Path (call.perform deadline limit) asked ended) :
    Single call asked (∃ fault, ended.result = .error fault) := by
  obtain ⟨work, front, back, answered, rest, rfl⟩ := path_bind_iff.mp path
  obtain ⟨rfl, rfl⟩ := path_pure_iff.mp rest
  rw [List.append_nil]
  refine (answer_path answered).imp ?_
  rintro ⟨error, rfl⟩
  exact conclude_error call error

end ToolCall

end BotScript
