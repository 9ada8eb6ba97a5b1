import BotScript.Host.Scripted
import BotScript.Proofs.Host.Overtime

/-! How the call of a tool ends. Cancellation and then the time decide before the tool starts and
again when its work is over; a failure that runs know passes through as it is, and whatever else
goes wrong is a failure of the tool. Only arguments that are no values come before all of this. -/

namespace BotScript

/-! ## Answers in good form -/

namespace ToolResult

/-- Data that a tool returned has the parts of an answer: whether it was a success, its output and
its data. Of a mapping the last two may be left out. -/
inductive Parts : Datum → Bool → Datum → Datum → Prop
  | result (success : Bool) (output data : Datum) :
      Parts (.result (.boolean success) output data) success output data
  | mapping {entries : List (Datum.Key × Datum)} {success : Bool}
      (given : Datum.field? entries "success" = some (.boolean success)) :
      Parts (.mapping entries) success ((Datum.field? entries "output").getD (.text ""))
        ((Datum.field? entries "data").getD .null)

/-- A value as the data of an answer: null is none, and what is no object is put into one. -/
def kept : Value → Option (List (String × Value))
  | .null => none
  | .object entries => some entries
  | value => some [("value", value)]

/-- Data that a tool returned makes an answer: it has all parts, and its output and its data are
values. -/
def Forms (raw : Datum) (answer : ToolResult) : Prop :=
  ∃ output data, Parts raw answer.success output data ∧
    output.convert.map Value.shown = .ok answer.output ∧ data.convert.map kept = .ok answer.data

/-- An object of which only its text is known makes no answer. -/
theorem not_forms_foreign {description : String} {answer : ToolResult} :
    ¬Forms (.foreign description) answer := by
  rintro ⟨output, data, parts, -⟩
  cases parts

theorem parts?_eq_some {raw output data : Datum} {success : Bool} :
    parts? raw = some (.boolean success, output, data) ↔ Parts raw success output data := by
  constructor
  · intro held
    cases raw with
    | result given output' data' =>
      obtain ⟨rfl, rfl, rfl⟩ : given = .boolean success ∧ output' = output ∧ data' = data := by
        simpa [parts?] using held
      exact .result success output' data'
    | mapping entries =>
      obtain ⟨given, found, same⟩ := Option.map_eq_some_iff.mp held
      obtain ⟨rfl, rfl, rfl⟩ : given = .boolean success ∧ _ = output ∧ _ = data := by
        simpa using same
      exact .mapping found
    | _ => cases held
  · rintro (_ | given)
    · rfl
    · simp [parts?, given]

/-- Output that is no text is written out as the value that it is; a text is so by itself. -/
theorem outputText_eq (output : Datum) : outputText output = output.convert.map Value.shown := by
  cases output with
  | text s => rfl
  | _ =>
    simp only [outputText]
    cases Datum.convert _ <;> rfl

/-- Only null is null as a value. -/
theorem eq_null_of_convert {data : Datum} (null : data.convert = .ok .null) : data = .null := by
  unfold Datum.convert at null
  split at null
  · cases null
  · have same := Except.ok.inj null
    cases data with
    | null => rfl
    | _ => simp [Datum.toValue] at same

theorem dataObject_eq (data : Datum) : dataObject data = data.convert.map kept := by
  by_cases null : data = .null
  · subst null
    rfl
  · rw [dataObject]
    · cases converted : data.convert with
      | error obstacle => rfl
      | ok value =>
        cases value with
        | null => exact absurd (eq_null_of_convert converted) null
        | _ => rfl
    · exact null

theorem ofDatum_eq_ok {tool : String} {raw : Datum} {answer : ToolResult} :
    ofDatum tool raw = .ok answer ↔ Forms raw answer := by
  obtain ⟨success, shown, entries⟩ := answer
  simp only [Forms, ← parts?_eq_some, ← outputText_eq, ← dataObject_eq]
  unfold ofDatum
  split
  · rename_i nothing
    simp [nothing]
  · rename_i given output data something
    rw [something]
    constructor
    · intro formed
      refine ⟨output, data, ?_⟩
      cases written : outputText output with
      | error obstacle => simp [written, bind, Except.bind, Except.mapError] at formed
      | ok text =>
        cases objects : dataObject data with
        | error obstacle => simp [written, objects, bind, Except.bind, Except.mapError] at formed
        | ok kept =>
          simpa [written, objects, bind, Except.bind, pure, Except.pure,
            Except.mapError] using formed
    · rintro ⟨output', data', same, written, objects⟩
      obtain ⟨rfl, rfl, rfl⟩ : given = success ∧ output = output' ∧ data = data' := by
        simpa using same
      simp [written, objects, bind, Except.bind, pure, Except.pure, Except.mapError]
  · rename_i other something
    constructor
    · exact nofun
    · rintro ⟨output, data, same, -⟩
      exact (other success output data (Option.some.inj (something.symm.trans same))).elim

/-- Data that makes no answer fails the tool that returned it. -/
theorem ofDatum_error {tool : String} {raw : Datum} {error : HostError}
    (failed : ofDatum tool raw = .error error) :
    (∃ cause, error = .runtime (.of cause) ∧ cause.kind = .toolExecution) ∨
    ∃ obstacle, error = .ofObstacle obstacle := by
  unfold ofDatum at failed
  split at failed
  · exact .inl ⟨_, (Except.error.inj failed).symm, rfl⟩
  · rename_i success output data _
    generalize (do
      let text ← outputText output
      let entries ← dataObject data
      return ⟨success, text, entries⟩ : Except Datum.Obstacle ToolResult) = formed at failed
    cases formed with
    | error obstacle => exact .inr ⟨obstacle, (Except.error.inj failed).symm⟩
    | ok answer => cases failed
  · exact .inl ⟨_, (Except.error.inj failed).symm, rfl⟩

end ToolResult

/-! ## Work under limits -/

/-- Work as a host does it: the moment at which it is to begin, what comes of it, and the moment at
which that is seen. -/
structure Stint where
  start : Moment
  completion : Completion
  stop : Moment

/-- What a host does from some state on, with a look at its clock before and after. -/
def Host.stint {σ : Type} (host : Host σ) (work : σ → Completion × σ) (world : σ) : Stint × σ :=
  let began := host.answer .observe world
  let worked := work began.2
  let ended := host.answer .observe worked.2
  (⟨began.1, worked.1, ended.1⟩, ended.2)

section Moments

variable {deadline : Option Deadline} {moment : Moment} {limit : Deadline} {phase : Phase}

theorem checkMoment_of_cancelled (cancelled : moment.cancelled = true) :
    checkMoment deadline moment phase = .error (.cancelled phase) :=
  if_pos cancelled

theorem Binary64.le_zero_of_atLeastZero {a : Binary64} (small : a.atLeastZero.le zero = true) :
    a.le zero = true := by
  unfold atLeastZero at small
  split at small
  · rename_i negative
    simp [le, negative]
  · exact small

theorem checkMoment_of_reached (going : moment.cancelled = false)
    (reached : limit.Reached moment.now) :
    checkMoment (some limit) moment phase = .error (.limitExceeded limit.limit phase) := by
  have nothing : (limit.remaining moment.now).le .zero = true :=
    Binary64.atLeastZero_le_zero reached
  simp [checkMoment, going, nothing]

theorem checkMoment_of_not_over (early : ¬moment.Over deadline) :
    checkMoment deadline moment phase = .ok () := by
  obtain ⟨going, before⟩ := not_or.mp early
  unfold checkMoment
  rw [if_neg going]
  cases deadline with
  | none => rfl
  | some limit =>
    refine if_neg fun nothing => before ⟨limit, rfl, ?_⟩
    exact Binary64.le_zero_of_atLeastZero nothing

theorem checkMoment_eq_ok : checkMoment deadline moment phase = .ok () ↔ ¬moment.Over deadline := by
  refine ⟨fun going past => ?_, checkMoment_of_not_over⟩
  obtain ⟨cause, stopped⟩ := checkMoment_of_over past phase
  rw [stopped] at going
  cases going

theorem Bound.of_eq_run {own : Option Binary64} {now : Binary64}
    (less : ∀ most ∈ own, (limit.remaining now).lt most = true) :
    Bound.of (some limit) own now = .run limit.limit := by
  cases own with
  | none => rfl
  | some most => exact if_pos (less most rfl)

theorem Bound.of_eq_own {own now : Binary64}
    (enough : ∀ overall ∈ deadline, (overall.remaining now).lt own = false) :
    Bound.of deadline (some own) now = .own own := by
  cases deadline with
  | none => rfl
  | some overall => exact if_neg (by simp [enough overall rfl])

end Moments

namespace Stint

variable {deadline : Option Deadline} {own : Option Binary64} {work : String} {stint : Stint}

/-- The time was over neither when the work began nor when it had ended. -/
def InTime (deadline : Option Deadline) (stint : Stint) : Prop :=
  ¬stint.start.Over deadline ∧ ¬stint.stop.Over deadline

instance (deadline : Option Deadline) (stint : Stint) : Decidable (stint.InTime deadline) :=
  inferInstanceAs (Decidable (_ ∧ _))

/-- What becomes of work that was begun. -/
def settled (deadline : Option Deadline) (own : Option Binary64) (work : String) (stint : Stint) :
    Except HostError Yield :=
  let checked := (checkMoment deadline stint.stop (.after work)).mapError fun cause =>
    HostError.runtime (.of cause)
  match stint.completion with
  | .returned datum => checked.map fun _ => .data datum
  | .pending => checked.map fun _ => .pending
  | .raised error => .error error
  | .withdrawn =>
    if stint.stop.cancelled then .error (.runtime (.of (.cancelled (.during work))))
    else .error (.other "RuntimeError" s!"{work} was cancelled from inside")
  | .hung =>
    .error
    (.runtime (.of ((Bound.of deadline own stint.start.now).cause stint.stop.cancelled work)))

/-- What becomes of work, which is not begun when the time is over. -/
def accepted (deadline : Option Deadline) (own : Option Binary64) (work : String) (stint : Stint) :
    Except HostError Yield :=
  match checkMoment deadline stint.start (.before work) with
  | .error cause => .error (.runtime (.of cause))
  | .ok () => stint.settled deadline own work

theorem accepted_late {cause : Cause}
    (late : checkMoment deadline stint.start (.before work) = .error cause) :
    stint.accepted deadline own work = .error (.runtime (.of cause)) := by
  simp only [accepted, late]

theorem accepted_begun (early : ¬stint.start.Over deadline) :
    stint.accepted deadline own work = stint.settled deadline own work := by
  simp only [accepted, checkMoment_of_not_over early]

/-- Work comes to something when it does so by itself and in time. -/
theorem accepted_eq_ok {result : Yield} :
    stint.accepted deadline own work = .ok result ↔
      stint.InTime deadline ∧ stint.completion = match result with
        | .data datum => .returned datum
        | .pending => .pending := by
  by_cases early : stint.start.Over deadline
  · obtain ⟨cause, late⟩ := checkMoment_of_over early (.before work)
    simp [accepted_late late, InTime, early]
  · have after : ∀ given : Yield,
        ((checkMoment deadline stint.stop (.after work)).mapError fun cause =>
          HostError.runtime (.of cause)).map
          (fun _ => given) = .ok result ↔ stint.InTime deadline ∧ given = result := by
      intro given
      have late : checkMoment deadline stint.stop (.after work) = .ok () ↔
          ¬stint.stop.Over deadline := checkMoment_eq_ok
      rw [InTime, ← late]
      cases checkMoment deadline stint.stop (.after work) <;>
        simp [Except.mapError, Except.map, early]
    rw [accepted_begun early, settled]
    cases stint.completion with
    | returned datum | pending => cases result <;> simp [after]
    | withdrawn => cases result <;> cases stint.stop.cancelled <;> simp
    | _ => cases result <;> simp

end Stint

namespace Dialogue

variable {α σ : Type} (host : Host σ)

theorem observe_run {next : Moment → Dialogue α} {world after : σ} {moment : Moment}
    (looked : host.answer .observe world = (moment, after)) :
    (query .observe >>= next).run host world = (next moment).run host after :=
  congrArg (fun look : Moment × σ => (next look.1).run host look.2) looked

/-- Work under limits comes to what the limits make of it; when that is something, the host is where
it was after its last look at the clock. -/
theorem guarded_run (deadline : Option Deadline) (own : Option Binary64) (work : String)
    (start : Dialogue Completion) (world : σ) :
    ∃ after, (guarded deadline own work start).run host world =
        ((host.stint (start.run host) world).1.accepted deadline own work, after) ∧
      ∀ result, (host.stint (start.run host) world).1.accepted deadline own work = .ok result →
        after = (host.stint (start.run host) world).2 := by
  rcases began : host.answer .observe world with ⟨first, world'⟩
  rcases worked : start.run host world' with ⟨completion, world''⟩
  rcases ended : host.answer .observe world'' with ⟨last, after⟩
  rw [guarded, observe_run host began]
  simp only [Stint.accepted, Stint.settled, Host.stint, began, worked, ended]
  cases checkMoment deadline first (.before work) with
  | error cause => exact ⟨_, rfl, by rintro _ ⟨⟩⟩
  | ok _ =>
    simp only [run_bind, worked]
    cases completion with
    | raised error => exact ⟨_, rfl, by rintro _ ⟨⟩⟩
    | hung =>
      rw [settle, observe_run host ended]
      exact ⟨_, rfl, by rintro _ ⟨⟩⟩
    | withdrawn =>
      rw [settle, observe_run host ended]
      cases last.cancelled <;> exact ⟨_, rfl, by rintro _ ⟨⟩⟩
    | returned datum | pending =>
      rw [settle, accept, observe_run host ended]
      cases checkMoment deadline last (.after work) with
      | error cause => exact ⟨_, rfl, by rintro _ ⟨⟩⟩
      | ok _ => exact ⟨_, rfl, fun _ _ => rfl⟩

end Dialogue

/-- What a tool came to, as data; work that is not awaited any more is an object like others. -/
def Yield.datum : Yield → Datum
  | data datum => datum
  | pending => .foreign "pending"

namespace ToolCall

open Dialogue

variable {σ : Type} (call : ToolCall) (deadline : Option Deadline) (limit : Option Binary64)
  (host : Host σ) (world : σ)

/-- The work of the tool itself. -/
def own : Stint × σ :=
  host.stint (host.answer (.tool call.tool call.args)) world

/-- The work that decides how a call ends: that of the tool, or the work that the tool handed back
in time. -/
def deciding : Stint :=
  match (call.own host world).1.completion with
  | .pending =>
    if (call.own host world).1.InTime deadline then
      (host.stint (host.answer (.awaitTool call.tool)) (call.own host world).2).1
    else (call.own host world).1
  | _ => (call.own host world).1

variable {call deadline limit host world}

private theorem deciding_of_pending
    (handed : (call.own host world).1.accepted deadline limit call.work = .ok .pending) :
    call.deciding deadline host world =
      (host.stint (host.answer (.awaitTool call.tool)) (call.own host world).2).1 := by
  obtain ⟨inTime, came⟩ := Stint.accepted_eq_ok.mp handed
  simp only [deciding, came, if_pos inTime]

private theorem deciding_of_ended (limit : Option Binary64)
    (kept : (call.own host world).1.accepted deadline limit call.work ≠ .ok .pending) :
    call.deciding deadline host world = (call.own host world).1 := by
  unfold deciding
  split
  · rename_i came
    exact if_neg fun inTime => kept (Stint.accepted_eq_ok.mpr ⟨inTime, came⟩)
  · rfl

theorem answer_run :
    ((call.answer deadline limit).run host world).1 =
      ((call.deciding deadline host world).accepted deadline limit call.work).map Yield.datum := by
  obtain ⟨after, ran, stands⟩ := guarded_run host deadline limit call.work
    (query (.tool call.tool call.args)) world
  change _ = ((call.own host world).1.accepted deadline limit call.work, after) at ran
  change ∀ result, (call.own host world).1.accepted deadline limit call.work = .ok result →
    after = (call.own host world).2 at stands
  rw [answer, run_bind, ran]
  cases given : (call.own host world).1.accepted deadline limit call.work with
  | error error =>
    rw [deciding_of_ended limit (by simp [given]), given]
    rfl
  | ok result =>
    obtain rfl := stands result given
    cases result with
    | data datum =>
      rw [deciding_of_ended limit (by simp [given]), given]
      rfl
    | pending =>
      obtain ⟨last, ran', -⟩ := guarded_run host deadline limit call.work
        (query (.awaitTool call.tool)) (call.own host world).2
      rw [deciding_of_pending given]
      dsimp only
      rw [run_bind, ran']
      change _ = Except.map _ ((host.stint ((query (.awaitTool call.tool)).run host) _).1.accepted
        deadline limit call.work)
      cases (host.stint ((query (.awaitTool call.tool)).run host) _).1.accepted deadline limit
        call.work with
      | error error => rfl
      | ok waited => cases waited <;> rfl

end ToolCall

/-! ## Verdicts -/

/-- Work comes to something by itself: to data or to more work. -/
def Completion.Delivers : Completion → Prop
  | returned _ | pending => True
  | raised _ | withdrawn | hung => False

theorem Completion.eq_hung {completion : Completion} (hung : (completion matches .hung) = true) :
    completion = .hung := by
  cases completion <;> first | rfl | cases hung

/-- How a call ends, read off the work that decides it. -/
structure ToolCall.Verdict (call : ToolCall) (deadline : Option Deadline) (limit : Option Binary64)
    (stint : Stint) (result : Except Fault ToolResult) : Prop where
  /-- A call succeeds just when its time is not over and the tool returns a success in good form. -/
  succeeds : ∀ answer, result = .ok answer ↔
    stint.InTime deadline ∧ answer.success = true ∧
      ∃ datum, stint.completion = .returned datum ∧ ToolResult.Forms datum answer
  cancelledBefore : stint.start.cancelled = true →
    result = .error (.of (.cancelled (.before call.work)))
  /-- A tool that hangs or cancels itself is cancelled at work. -/
  cancelledDuring : ¬stint.start.Over deadline → stint.stop.cancelled = true →
    stint.completion = .hung ∨ stint.completion = .withdrawn →
    result = .error (.of (.cancelled (.during call.work)))
  cancelledAfter : ¬stint.start.Over deadline → stint.stop.cancelled = true →
    stint.completion.Delivers →
    result = .error (.of (.cancelled (.after call.work)))
  expiredBefore : stint.start.cancelled = false →
    ∀ overall ∈ deadline, overall.Reached stint.start.now →
    result = .error (.of (.limitExceeded overall.limit (.before call.work)))
  expiredAfter : ¬stint.start.Over deadline → stint.stop.cancelled = false →
    stint.completion.Delivers →
    ∀ overall ∈ deadline, overall.Reached stint.stop.now →
      result = .error (.of (.limitExceeded overall.limit (.after call.work)))
  /-- A tool that hangs exceeds the limit of the run when less is left of it than the call may
  take. -/
  hungOverall : ¬stint.start.Over deadline → stint.stop.cancelled = false →
    stint.completion = .hung →
    ∀ overall ∈ deadline, (∀ own ∈ limit, (overall.remaining stint.start.now).lt own = true) →
      result = .error (.of (.limitExceeded overall.limit (.during call.work)))
  hungOwn : ¬stint.start.Over deadline → stint.stop.cancelled = false → stint.completion = .hung →
    ∀ own ∈ limit, (∀ overall ∈ deadline, (overall.remaining stint.start.now).lt own = false) →
      result = .error (.of (.callTimedOut call.work own))
  /-- A failure that runs know passes through, even when the time is over by then. -/
  passes : ¬stint.start.Over deadline → ∀ fault, stint.completion = .raised (.runtime fault) →
      result = .error fault
  /-- Any other error is a failure of the tool. -/
  raised : ¬stint.start.Over deadline → ∀ error, stint.completion = .raised error →
      (∀ fault, error ≠ .runtime fault) →
    result = .error (.of (.toolRaised call.name error.typeName error.text))
  withdrew : ¬stint.start.Over deadline → stint.stop.cancelled = false →
    stint.completion = .withdrawn →
    result =
      .error (.of (.toolRaised call.name "RuntimeError" s!"{call.work} was cancelled from inside"))
  /-- So is an answer that reports a failure. -/
  failed : stint.InTime deadline → ∀ datum answer, stint.completion = .returned datum →
    ToolResult.Forms datum answer → answer.success = false →
      result = .error (.of (.toolFailed call.name answer.output))
  /-- So is anything that is no answer. -/
  malformed : stint.InTime deadline →
    (stint.completion = .pending ∨ ∃ datum, stint.completion = .returned datum ∧
      ∀ answer, ¬ToolResult.Forms datum answer) →
      ∃ cause, result = .error (.of cause) ∧ cause.kind = .toolExecution

namespace ToolCall

variable {call : ToolCall} {deadline : Option Deadline} {limit : Option Binary64} {stint : Stint}

/-- Work that went wrong makes a call fail. -/
theorem conclude_error_ne_ok (call : ToolCall) (error : HostError) (answer : ToolResult) :
    (call.conclude (.error error)).result ≠ .ok answer := by
  cases error <;> exact nofun

/-- Data in good form makes a call succeed or fail as it says. -/
theorem conclude_of_forms {datum : Datum} {answer : ToolResult}
    (formed : ToolResult.Forms datum answer) :
    (call.conclude (.ok datum)).result =
      if answer.success then .ok answer
        else .error (.of (.toolFailed call.name answer.output)) := by
  have read : ToolResult.ofDatum call.name datum = .ok answer := ToolResult.ofDatum_eq_ok.mpr formed
  simp only [conclude, Except.bind, read]
  split <;> rfl

/-- Other data is a failure of the tool. -/
theorem conclude_of_not_forms (call : ToolCall) {datum : Datum}
    (unformed : ∀ answer, ¬ToolResult.Forms datum answer) :
    ∃ cause, (call.conclude (.ok datum)).result = .error (.of cause) ∧
      cause.kind = .toolExecution := by
  cases read : ToolResult.ofDatum call.name datum with
  | ok answer => exact absurd (ToolResult.ofDatum_eq_ok.mp read) (unformed answer)
  | error error =>
    simp only [conclude, Except.bind, read]
    rcases ToolResult.ofDatum_error read with ⟨cause, rfl, kind⟩ | ⟨obstacle, rfl⟩
    · exact ⟨cause, rfl, kind⟩
    · exact ⟨_, rfl, rfl⟩

theorem conclude_eq_ok {datum : Datum} {answer : ToolResult} :
    (call.conclude (.ok datum)).result = .ok answer ↔
      answer.success = true ∧ ToolResult.Forms datum answer := by
  constructor
  · intro succeeded
    by_cases formed : ∃ other, ToolResult.Forms datum other
    · obtain ⟨other, formed⟩ := formed
      rw [conclude_of_forms formed] at succeeded
      split at succeeded
      · rename_i success
        obtain rfl := Except.ok.inj succeeded
        exact ⟨success, formed⟩
      · cases succeeded
    · obtain ⟨cause, failed, -⟩ := conclude_of_not_forms call (not_exists.mp formed)
      rw [failed] at succeeded
      cases succeeded
  · rintro ⟨success, formed⟩
    rw [conclude_of_forms formed, if_pos success]

/-- The limits and the form of answers give a verdict. -/
theorem verdict_of_stint (call : ToolCall) (deadline : Option Deadline) (limit : Option Binary64)
    (stint : Stint) :
    call.Verdict deadline limit stint
      (call.conclude ((stint.accepted deadline limit call.work).map Yield.datum)).result where
  succeeds answer := by
    cases given : stint.accepted deadline limit call.work with
    | error error =>
      refine iff_of_false (conclude_error_ne_ok call error answer) ?_
      rintro ⟨inTime, -, datum, came, -⟩
      have accepted : stint.accepted deadline limit call.work = .ok (.data datum) :=
        Stint.accepted_eq_ok.mpr ⟨inTime, came⟩
      rw [given] at accepted
      cases accepted
    | ok result =>
      obtain ⟨inTime, came⟩ := Stint.accepted_eq_ok.mp given
      simp only [Except.map, conclude_eq_ok, came, inTime, true_and]
      cases result with
      | data datum => simp [Yield.datum]
      | pending => simp [Yield.datum, ToolResult.not_forms_foreign]
  cancelledBefore cancelled := by
    rw [Stint.accepted_late (checkMoment_of_cancelled cancelled)]
    rfl
  cancelledDuring early cancelled lasted := by
    rw [Stint.accepted_begun early, Stint.settled]
    rcases lasted with came | came
    · simp only [came, Bound.cause, cancelled, if_true]
      rfl
    · simp only [came, cancelled, if_true]
      rfl
  cancelledAfter early cancelled delivered := by
    rw [Stint.accepted_begun early, Stint.settled, checkMoment_of_cancelled cancelled]
    cases came : stint.completion with
    | returned datum | pending => rfl
    | _ => simp [came, Completion.Delivers] at delivered
  expiredBefore going overall given reached := by
    obtain rfl := Option.mem_def.mp given
    rw [Stint.accepted_late (checkMoment_of_reached going reached)]
    rfl
  expiredAfter early going delivered overall given reached := by
    obtain rfl := Option.mem_def.mp given
    rw [Stint.accepted_begun early, Stint.settled, checkMoment_of_reached going reached]
    cases came : stint.completion with
    | returned datum | pending => rfl
    | _ => simp [came, Completion.Delivers] at delivered
  hungOverall early going came overall given less := by
    obtain rfl := Option.mem_def.mp given
    rw [Stint.accepted_begun early, Stint.settled, Bound.of_eq_run less]
    simp only [came, going]
    rfl
  hungOwn early going came own given enough := by
    obtain rfl := Option.mem_def.mp given
    rw [Stint.accepted_begun early, Stint.settled, Bound.of_eq_own enough]
    simp only [came, going]
    rfl
  passes early fault came := by
    rw [Stint.accepted_begun early, Stint.settled]
    simp only [came]
    rfl
  raised early error came other := by
    rw [Stint.accepted_begun early, Stint.settled]
    simp only [came]
    cases error with
    | runtime fault => exact absurd rfl (other fault)
    | grammar message place => rfl
    | other typeName text => rfl
  withdrew early going came := by
    rw [Stint.accepted_begun early, Stint.settled]
    simp only [came, going]
    rfl
  failed inTime datum answer came formed unsuccessful := by
    have given : stint.accepted deadline limit call.work = .ok (.data datum) :=
      Stint.accepted_eq_ok.mpr ⟨inTime, came⟩
    rw [given]
    exact (conclude_of_forms formed).trans (if_neg (by simp [unsuccessful]))
  malformed inTime bad := by
    rcases bad with came | ⟨datum, came, unformed⟩
    · have given : stint.accepted deadline limit call.work = .ok .pending :=
        Stint.accepted_eq_ok.mpr ⟨inTime, came⟩
      rw [given]
      exact conclude_of_not_forms call fun answer => ToolResult.not_forms_foreign
    · have given : stint.accepted deadline limit call.work = .ok (.data datum) :=
        Stint.accepted_eq_ok.mpr ⟨inTime, came⟩
      rw [given]
      exact conclude_of_not_forms call unformed

variable {σ : Type}

theorem perform_verdict (call : ToolCall) (deadline : Option Deadline) (limit : Option Binary64)
    (host : Host σ) (world : σ) :
    call.Verdict deadline limit (call.deciding deadline host world)
      ((call.perform deadline limit).run host world).1.result := by
  have ran : ((call.perform deadline limit).run host world).1 =
      call.conclude ((call.answer deadline limit).run host world).1 := by
    rw [perform, Dialogue.run_bind]
    rfl
  rw [ran, answer_run]
  exact verdict_of_stint call deadline limit _

/-- Every call of a tool ends as the work says that decides it, under whatever limits and with
whatever host; only arguments that are no values fail before the host is asked for anything. -/
theorem judged (deadline : Option Deadline) (limit : Option Binary64) (host : Host σ) (world : σ) :
    (∀ call : ToolCall, call.Verdict deadline limit (call.deciding deadline host world)
      ((call.perform deadline limit).run host world).1.result) ∧
    ∀ (catalogue : Catalogue) (runId tool name : String) (args : Datum) (found : Tool),
      catalogue.require tool = .ok found →
        let call := ToolCall.ofHost found name args
        let result := ((catalogue.dispatch deadline limit runId tool name args).run host world).1.1
        (args.obstacle? = none → call.Verdict deadline limit
            (call.deciding deadline host world) result) ∧
          ∀ obstacle, args.obstacle? = some obstacle →
            result = .error (.of (.toolRaised call.name obstacle.typeName obstacle.message)) := by
  refine ⟨fun call => perform_verdict call deadline limit host world, ?_⟩
  intro catalogue runId tool name args found known
  dsimp only
  simp only [Catalogue.dispatch, known]
  constructor
  · intro fine
    rw [fine]
    simp only [Dialogue.run_bind]
    exact perform_verdict _ deadline limit host world
  · intro obstacle foreign
    rw [foreign]
    rfl

/-- A tool whose work is handed back and then hangs, two seconds later. -/
def sleepy : ToolScript where
  offer := ⟨some "sleepy", none, true, "", none⟩
  handsBack := true
  handled := true
  actions := [{ Action.agreeable with advance := some (.ofInt 2), hang := true }]

/-- The deadline of a run that may take five seconds. -/
def soon : Deadline :=
  ⟨.ofInt 5, .ofInt 5⟩

/-- Less is left of the run than the six seconds that the call may take, so it is the run that takes
too long. -/
theorem sleepy_judged :
    ((Catalogue.ofTools [⟨0, "sleepy", none⟩]).require "sleepy" = .ok ⟨0, "sleepy", none⟩ ∧
      (Datum.mapping []).obstacle? = none) ∧
    (((Catalogue.ofTools [⟨0, "sleepy", none⟩]).dispatch (some soon)
      (some (.ofInt 6)) "run" "sleepy" ""
      (.mapping [])).run World.host (.bare [sleepy])).1.1 =
        .error (.of (.limitExceeded soon.limit (.during "tool 'sleepy'"))) := by
  have known : (Catalogue.ofTools [⟨0, "sleepy", none⟩]).require "sleepy" =
      .ok ⟨0, "sleepy", none⟩ := rfl
  have named : (ToolCall.ofHost ⟨0, "sleepy", none⟩ "" (.mapping [])).work = "tool 'sleepy'" := by
    decide +kernel
  have verdict := ((judged (some soon) (some (.ofInt 6)) World.host (.bare [sleepy])).2
    _ "run" "sleepy" "" (.mapping []) _ known).1 rfl
  refine ⟨⟨known, rfl⟩, ?_⟩
  rw [← named]
  refine verdict.hungOverall ?_ ?_ ?_ soon (Option.mem_some_self _) ?_
  · decide +kernel
  · decide +kernel
  · exact Completion.eq_hung (by decide +kernel)
  · decide +kernel

end ToolCall

/-- A call of a cancelled run whose argument is no value is not cancelled: the tool is said to have
failed. -/
theorem Catalogue.dispatch_cancelled_late :
    ¬∀ (world : World) (args : Datum), world.cancelled = true →
      (((Catalogue.ofTools [⟨0, "t", none⟩]).dispatch none none "run" "t" "" args).run
        World.host world).1.1 =
        .error (.of (.cancelled (.before "tool 't'"))) := by
  intro always
  have cancelled := always { World.bare [] with cancelled := true }
    (.mapping [(.text "x", .decimal (.nan false true 0))]) rfl
  have failed : (((Catalogue.ofTools [⟨0, "t", none⟩]).dispatch none none "run" "t" ""
      (.mapping [(.text "x", .decimal (.nan false true 0))])).run World.host
        { World.bare [] with cancelled := true }).1.1 =
        .error (.of (.toolRaised "t" "ValueError" "cannot convert signaling NaN to float")) := rfl
  rw [failed] at cancelled
  cases cancelled

end BotScript
