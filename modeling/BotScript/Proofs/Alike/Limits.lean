import BotScript.Memory.Calls
import BotScript.Proofs.Alike.Dialogues

/-! Work under two deadlines that decide alike. What a run asks for, and what it makes of the
answers, depends on its clock only through the decisions of its deadline. -/

namespace BotScript

variable {slack : Slack} {deadline other : Option Deadline}

/-- Under two deadlines, moments that may stand for one another lead to the same decisions. -/
structure Slack.Paced (slack : Slack) (deadline other : Option Deadline) : Prop where
  cancelled : ∀ moment moment', slack.moments moment moment' → moment.cancelled = moment'.cancelled
  check : ∀ moment moment', slack.moments moment moment' → ∀ phase,
    checkMoment deadline moment phase = checkMoment other moment' phase
  bound : ∀ moment moment', slack.moments moment moment' → ∀ own,
    Bound.of deadline own moment.now = Bound.of other own moment'.now

/-- Runs that begin at moments which may stand for one another have deadlines that decide alike. -/
def Slack.Steady (slack : Slack) (limit : Option Binary64) : Prop :=
  ∀ start start', slack.moments start start' →
    slack.Paced (Deadline.start? limit start.now) (Deadline.start? limit start'.now)

/-- Moments that are the same lead to the same decisions. -/
theorem Slack.steady_of_same (limit : Option Binary64) (same : slack.moments = Eq) :
    slack.Steady limit := by
  intro start start' starts
  rw [same] at starts
  subst starts
  constructor
  all_goals
    intro moment moment' moments
    rw [same] at moments
    subst moments
  · rfl
  · exact fun _ => rfl
  · exact fun _ => rfl

/-- Without a deadline only cancellation counts. -/
theorem Slack.steady_of_unlimited {limit : Option Binary64}
    (unlimited : ∀ now, Deadline.start? limit now = none)
    (cancelled : ∀ moment moment', slack.moments moment moment' → moment.cancelled =
      moment'.cancelled) :
    slack.Steady limit := by
  intro start start' _
  rw [unlimited, unlimited]
  refine ⟨cancelled, fun moment moment' moments phase => ?_, fun _ _ _ own => ?_⟩
  · unfold checkMoment
    rw [cancelled moment moment' moments]
  · cases own <;> rfl

namespace Dialogue

variable {α : Type}

theorem observe_alike {ends : α → α → Prop} {next next' : Moment → Dialogue α}
    (later : ∀ moment moment', slack.moments moment moment' →
      Alike slack ends (next moment) (next' moment')) :
    Alike slack ends (query .observe >>= next) (query .observe >>= next') :=
  .observe later

theorem pure_alike (a : α) : Alike slack Eq (pure a) (pure a) :=
  .done rfl

private theorem accept_alike (paced : slack.Paced deadline other) (work : String) (result : Yield) :
    Alike slack Eq (accept deadline work result) (accept other work result) := by
  refine observe_alike fun moment moment' moments => ?_
  rw [paced.check _ _ moments]
  split <;> exact pure_alike _

private theorem settle_alike (paced : slack.Paced deadline other) (bound : Bound) (work : String)
    (completion : Completion) :
    Alike slack Eq (settle deadline bound work completion)
      (settle other bound work completion) := by
  cases completion with
  | returned datum => exact accept_alike paced work _
  | pending => exact accept_alike paced work _
  | raised error => exact .done rfl
  | withdrawn =>
    refine observe_alike fun moment moment' moments => ?_
    rw [paced.cancelled _ _ moments]
    split <;> exact pure_alike _
  | hung =>
    refine observe_alike fun moment moment' moments => ?_
    rw [paced.cancelled _ _ moments]
    exact pure_alike _

/-- Work is started, bounded and accepted alike. -/
theorem guarded_alike (paced : slack.Paced deadline other) (own : Option Binary64) (work : String)
    {start : Dialogue Completion} (started : Alike slack Eq start start) :
    Alike slack Eq (guarded deadline own work start) (guarded other own work start) := by
  refine observe_alike fun moment moment' moments => ?_
  rw [paced.check _ _ moments, paced.bound _ _ moments]
  split
  · exact pure_alike _
  · refine started.bind fun completion _ same => ?_
    subst same
    exact settle_alike paced _ work completion

end Dialogue

/-! ## The memory -/

/-- The memory is reached alike. -/
structure MemoryAccess.Alike (slack : Slack) (access other : MemoryAccess) : Prop where
  connected : access.connected = other.connected
  callLimit : access.callLimit = other.callLimit
  paced : slack.Paced access.deadline other.deadline

namespace MemoryAccess.Alike

open Dialogue

variable {access access' : MemoryAccess}

theorem perform (alike : access.Alike slack access') (call : MemoryCall) :
    Dialogue.Alike slack Eq (access.perform call) (access'.perform call) := by
  unfold MemoryAccess.perform
  rw [alike.connected, alike.callLimit]
  split
  · refine (guarded_alike alike.paced _ _ (.memory fun completion => .done rfl)).bind
      fun result _ same => ?_
    subst same
    exact pure_alike _
  · exact pure_alike _

theorem read (alike : access.Alike slack access') (key : String) :
    Dialogue.Alike slack Eq (access.read key) (access'.read key) := by
  refine (alike.perform (.get key)).bind fun result _ same => ?_
  subst same
  split <;> exact pure_alike _

theorem write (alike : access.Alike slack access') (call : MemoryCall) :
    Dialogue.Alike slack Eq (access.write call) (access'.write call) := by
  refine (alike.perform call).bind fun result _ same => ?_
  subst same
  exact pure_alike _

theorem hydrate (alike : access.Alike slack access') (slots : List (String × Slot)) :
    Dialogue.Alike slack Eq (access.hydrate slots) (access'.hydrate slots) := by
  induction slots with
  | nil => exact pure_alike _
  | cons slot rest ih =>
    refine (alike.read slot.2.key).bind fun result _ same => ?_
    subst same
    split
    · exact pure_alike _
    · refine ih.bind fun others _ same => ?_
      subst same
      split <;> exact pure_alike _

end MemoryAccess.Alike

/-! ## Tools -/

namespace ToolCall

open Dialogue

/-- A tool is called alike, whatever comes of it. -/
theorem perform_alike (paced : slack.Paced deadline other) (call : ToolCall)
    (limit : Option Binary64) :
    Alike slack Eq (call.perform deadline limit) (call.perform other limit) := by
  have called : Alike slack Eq (call.answer deadline limit) (call.answer other limit) := by
    refine (guarded_alike paced limit _ (.tool fun completion => .done rfl)).bind
      fun result _ same => ?_
    subst same
    split
    · exact pure_alike _
    · exact pure_alike _
    · refine (guarded_alike paced limit _ (.awaitTool fun completion => .done rfl)).bind
        fun result _ same => ?_
      subst same
      split <;> exact pure_alike _
  refine called.bind fun result _ same => ?_
  subst same
  exact pure_alike _

end ToolCall

end BotScript
