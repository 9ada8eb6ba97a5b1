import BotScript.Proofs.Host.Limits

/-! Failures of programs in what the host does. The limits of a run, the form of answers and the
lack of a memory are never about unbound variables or unknown tools, so such a failure of a call is
one that the host raised itself. -/

namespace BotScript

/-- Failures that only a program makes: it reads a variable, calls a tool or leaves an event to a
handler that is not there. -/
def ErrorKind.isProgram : ErrorKind → Bool
  | unbound | unknownTool | noHandler => true
  | _ => false

/-- The cause of the failure that the host's own code raised. -/
def Exchange.raised? (exchange : Exchange) : Option Cause :=
  match exchange with
  | ⟨.tool _ _, .raised (.runtime fault)⟩ => some fault.cause
  | ⟨.awaitTool _, .raised (.runtime fault)⟩ => some fault.cause
  | ⟨.memory _, .raised (.runtime fault)⟩ => some fault.cause
  | _ => none

/-- Some exchange is one in which the host raised a failure of a cause. -/
def Exchange.Raised (asked : List Exchange) (cause : Cause) : Prop :=
  ∃ exchange ∈ asked, exchange.raised? = some cause

theorem Exchange.Raised.mono {few many : List Exchange} {cause : Cause} (raised : Raised few cause)
    (subset : few ⊆ many) :
    Raised many cause := by
  obtain ⟨exchange, member, same⟩ := raised
  exact ⟨exchange, subset member, same⟩

theorem checkMoment_kind {deadline : Option Deadline} {moment : Moment} {phase : Phase}
    {cause : Cause} (failed : checkMoment deadline moment phase = .error cause) :
    ¬cause.kind.isProgram := by
  unfold checkMoment at failed
  repeat' split at failed
  all_goals cases failed
  all_goals exact nofun

theorem Bound.cause_kind (bound : Bound) (cancelled : Bool) (work : String) :
    ¬(bound.cause cancelled work).kind.isProgram := by
  unfold Bound.cause
  repeat' split
  all_goals exact nofun

namespace Dialogue

variable {asked : List Exchange} {fault : Fault}

private theorem refuse_kind {α : Type} {cause : Cause} (other : ¬cause.kind.isProgram)
    (path : Path (refuse (α := α) cause) asked (.error (.runtime fault))) :
    ¬fault.cause.kind.isProgram := by
  obtain ⟨-, same⟩ := path_done_iff.mp path
  obtain rfl := HostError.runtime.inj (Except.error.inj same)
  exact other

/-- Work whose end is such a failure raised it. -/
theorem settle_raised {deadline : Option Deadline} {bound : Bound} {work : String}
    {completion : Completion}
    (path : Path (settle deadline bound work completion) asked (.error (.runtime fault)))
    (made : fault.cause.kind.isProgram) : completion = .raised (.runtime fault) := by
  cases completion with
  | raised error =>
    obtain ⟨-, same⟩ := path_done_iff.mp path
    rw [Except.error.inj same]
  | returned _ | pending =>
    obtain ⟨moment, front, back, -, rest, -⟩ := path_bind_iff.mp path
    split at rest
    · rename_i late
      exact absurd made (refuse_kind (checkMoment_kind late) rest)
    · cases (path_pure_iff.mp rest).2
  | withdrawn =>
    obtain ⟨moment, front, back, -, rest, -⟩ := path_bind_iff.mp path
    split at rest
    · have other : ¬(Cause.cancelled (.during work)).kind.isProgram := by
        simp [Cause.kind, ErrorKind.isProgram]
      exact absurd made (refuse_kind other rest)
    · cases (path_pure_iff.mp rest).2
  | hung =>
    obtain ⟨moment, front, back, -, rest, -⟩ := path_bind_iff.mp path
    exact absurd made (refuse_kind (bound.cause_kind _ _) rest)

theorem guarded_raised {deadline : Option Deadline} {own : Option Binary64} {work : String}
    {start : Dialogue Completion}
    (path : Path (guarded deadline own work start) asked (.error (.runtime fault)))
    (made : fault.cause.kind.isProgram) :
    ∃ front middle back, asked = front ++ (middle ++ back) ∧
      start.Path middle (.raised (.runtime fault)) := by
  obtain ⟨moment, front, behind, -, rest, rfl⟩ := path_bind_iff.mp path
  split at rest
  · rename_i late
    exact absurd made (refuse_kind (checkMoment_kind late) rest)
  · obtain ⟨completion, middle, back, started, settled, rfl⟩ := path_bind_iff.mp rest
    obtain rfl := settle_raised settled made
    exact ⟨front, middle, back, rfl, started⟩

end Dialogue

open Dialogue Exchange

variable {asked : List Exchange} {fault : Fault}

namespace MemoryAccess

variable {access : MemoryAccess} {call : MemoryCall}

theorem perform_raised (path : Path (access.perform call) asked (.error fault))
    (made : fault.cause.kind.isProgram) :
    Raised asked fault.cause := by
  unfold perform at path
  split at path
  · obtain ⟨given, front, back, guarded, rest, rfl⟩ := path_bind_iff.mp path
    obtain ⟨-, same⟩ := path_pure_iff.mp rest
    match given with
    | .ok _ => cases same
    | .error (.grammar _ _) | .error (.other _ _) =>
      obtain rfl := Except.error.inj same
      cases made
    | .error (.runtime raised) =>
      obtain rfl := Except.error.inj same
      obtain ⟨before, middle, behind, rfl, started⟩ := guarded_raised guarded made
      obtain rfl := path_query_iff.mp started
      exact ⟨⟨.memory call, .raised (.runtime fault)⟩, by simp, rfl⟩
  · obtain ⟨-, same⟩ := path_pure_iff.mp path
    obtain rfl := Except.error.inj same
    cases made

theorem write_raised (path : Path (access.write call) asked (.error fault))
    (made : fault.cause.kind.isProgram) :
    Raised asked fault.cause := by
  obtain ⟨given, front, back, performed, rest, rfl⟩ := path_bind_iff.mp path
  obtain ⟨rfl, same⟩ := path_pure_iff.mp rest
  cases given with
  | ok datum => cases same
  | error first =>
    obtain rfl := Except.error.inj same
    rw [List.append_nil]
    exact perform_raised performed made

theorem read_raised {key : String} (path : Path (access.read key) asked (.error (.fault fault)))
    (made : fault.cause.kind.isProgram) : Raised asked fault.cause := by
  obtain ⟨given, front, back, performed, rest, rfl⟩ := path_bind_iff.mp path
  cases given with
  | error first =>
    obtain ⟨rfl, same⟩ := path_pure_iff.mp rest
    obtain rfl := Stop.fault.inj (Except.error.inj same)
    rw [List.append_nil]
    exact perform_raised performed made
  | ok datum =>
    obtain ⟨-, same⟩ := path_pure_iff.mp rest
    cases converted : datum.convert <;> rw [converted] at same <;> cases same

/-- So did the memory, when declared variables could not be read. -/
theorem hydrate_raised {slots : List (String × Slot)}
    (path : Path (access.hydrate slots) asked (.error (.fault fault)))
    (made : fault.cause.kind.isProgram) : Raised asked fault.cause := by
  induction slots generalizing asked with
  | nil => cases (path_pure_iff.mp path).2
  | cons slot rest ih =>
    obtain ⟨given, front, back, first, later, rfl⟩ := path_bind_iff.mp path
    cases given with
    | error stop =>
      obtain ⟨rfl, same⟩ := path_pure_iff.mp later
      obtain rfl := Except.error.inj same
      rw [List.append_nil]
      exact read_raised first made
    | ok value =>
      obtain ⟨values, front', back', others, last, rfl⟩ := path_bind_iff.mp later
      cases values with
      | ok values => cases (path_pure_iff.mp last).2
      | error stop =>
        obtain ⟨rfl, same⟩ := path_pure_iff.mp last
        obtain rfl := Except.error.inj same
        refine (ih others).mono ?_
        simp

end MemoryAccess

namespace ToolCall

variable {call : ToolCall} {deadline : Option Deadline} {limit : Option Binary64}


theorem answer_raised (path : Path (call.answer deadline limit) asked (.error (.runtime fault)))
    (made : fault.cause.kind.isProgram) : Raised asked fault.cause := by
  obtain ⟨given, front, back, started, rest, rfl⟩ := path_bind_iff.mp path
  match given with
  | .ok (.data datum) => cases (path_pure_iff.mp rest).2
  | .error error =>
    obtain ⟨rfl, same⟩ := path_pure_iff.mp rest
    obtain rfl := Except.error.inj same
    obtain ⟨before, middle, behind, rfl, begun⟩ := guarded_raised started made
    obtain rfl := path_query_iff.mp begun
    exact ⟨⟨.tool call.tool call.args, .raised (.runtime fault)⟩, by simp, rfl⟩
  | .ok .pending =>
    obtain ⟨waited, front', back', awaited, last, rfl⟩ := path_bind_iff.mp rest
    match waited with
    | .ok (.data datum) => cases (path_pure_iff.mp last).2
    | .ok .pending => cases (path_pure_iff.mp last).2
    | .error error =>
      obtain ⟨rfl, same⟩ := path_pure_iff.mp last
      obtain rfl := Except.error.inj same
      obtain ⟨before, middle, behind, rfl, started⟩ := guarded_raised awaited made
      obtain rfl := path_query_iff.mp started
      exact ⟨⟨.awaitTool call.tool, .raised (.runtime fault)⟩, by simp, rfl⟩

/-- What a tool answered is no failure of a program. -/
private theorem ofDatum_kind {tool : String} {raw : Datum}
    (failed : ToolResult.ofDatum tool raw = .error (.runtime fault)) :
    ¬fault.cause.kind.isProgram := by
  unfold ToolResult.ofDatum at failed
  split at failed
  · obtain rfl := HostError.runtime.inj (Except.error.inj failed)
    exact nofun
  · rename_i success output data _
    generalize (do
      let text ← ToolResult.outputText output
      let entries ← ToolResult.dataObject data
      return ⟨success, text, entries⟩ : Except Datum.Obstacle ToolResult) = formed at failed
    cases formed <;> cases failed
  · obtain rfl := HostError.runtime.inj (Except.error.inj failed)
    exact nofun

theorem perform_raised {ended : Ended} (path : Path (call.perform deadline limit) asked ended)
    (failed : ended.result = .error fault) (made : fault.cause.kind.isProgram) :
    Raised asked fault.cause := by
  obtain ⟨work, front, back, answered, rest, rfl⟩ := path_bind_iff.mp path
  obtain ⟨rfl, rfl⟩ := path_pure_iff.mp rest
  rw [List.append_nil]
  unfold conclude at failed
  split at failed
  · rename_i known given
    obtain rfl := Except.error.inj failed
    cases work with
    | error error =>
      obtain rfl := Except.error.inj given
      exact answer_raised answered made
    | ok datum => exact absurd made (ofDatum_kind given)
  · obtain rfl := Except.error.inj failed
    cases made
  · split at failed
    · cases failed
    · obtain rfl := Except.error.inj failed
      cases made

end ToolCall

end BotScript
