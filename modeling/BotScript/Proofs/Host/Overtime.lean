import Mathlib.Tactic.SplitIfs
import BotScript.Memory.Calls
import BotScript.Proofs.Host.Exchange
import BotScript.Tool.Call

/-! Dialogues when the time of a run is over. Work under limits is not started any more, whether the
time was over before or ran out while the host was acting, and what was under way comes to a
failure. -/

namespace BotScript

/-- An element of two lists in a row stands in the first or in the second. -/
theorem append_cons_eq_append {α : Type} {front back first second : List α} {a : α}
    (same : front ++ a :: back = first ++ second) :
    (∃ between, first = front ++ a :: between ∧ back = between ++ second) ∨
      ∃ between, front = first ++ between ∧ second = between ++ a :: back := by
  rcases List.append_eq_append_iff.mp same with ⟨between, rfl, split⟩ | later
  · cases between with
    | nil => exact .inr ⟨[], by simp, split.symm⟩
    | cons b between =>
      obtain ⟨rfl, rfl⟩ := List.cons.inj split
      exact .inl ⟨between, rfl, rfl⟩
  · exact .inr later

namespace Binary64

theorem atLeastZero_le_zero {a : Binary64} (small : a.le zero = true) :
    a.atLeastZero.le zero = true := by
  unfold atLeastZero
  split
  · rfl
  · exact small

/-- Rounding does not make a positive count vanish. -/
theorem roundUnits_pos {units : Nat} (positive : 0 < units) : 0 < roundUnits units 1 := by
  have small : 2 ^ excess units ≤ units := by
    have shift : excess units ≤ units.log2 := Nat.sub_le ..
    calc
      2 ^ excess units ≤ 2 ^ units.log2 := Nat.pow_le_pow_right Nat.two_pos shift
      _ ≤ units := Nat.log2_self_le (Nat.ne_of_gt positive)
  have quotient : 0 < units / 2 ^ excess units := Nat.div_pos small (Nat.two_pow_pos _)
  have rounded : 0 < roundHalfEven units (2 ^ excess units) := by
    unfold roundHalfEven
    dsimp only
    split_ifs <;> omega
  simp only [roundUnits, Nat.div_one, Nat.one_mul, Nat.pow_eq]
  exact Nat.mul_pos rounded (Nat.two_pow_pos _)

/-- A difference of finite numbers has a sign that rounding keeps. -/
theorem sub_le_zero_iff {n m : Bool} {a b : Nat} :
    ((finite n a).sub (finite m b)).le zero = true ↔ (finite n a).le (finite m b) = true := by
  have difference : signedUnits n a + signedUnits (!m) b = signedUnits n a - signedUnits m b := by
    cases m <;> simp [signedUnits]; omega
  have order : (finite n a).le (finite m b) = true ↔ signedUnits n a - signedUnits m b ≤ 0 := by
    simp [le, lt, eq]
    omega
  rw [order]
  simp only [sub, neg, add, difference]
  generalize signedUnits n a - signedUnits m b = total
  by_cases equal : total = 0
  · simp [equal, le, lt, eq, zero, signedUnits]
  · simp only [if_neg equal, ofUnits]
    by_cases negative : total < 0
    · have small : total ≤ 0 := by omega
      simp only [negative, small, decide_true, iff_true]
      split
      · simp [le, lt, eq, zero, signedUnits]
        omega
      · rfl
    · have large : ¬ total ≤ 0 := by omega
      have positive : 0 < roundUnits total.natAbs 1 := roundUnits_pos (by omega)
      simp only [negative, large, decide_false, iff_false]
      split
      · simp [le, lt, eq, zero, signedUnits]
        omega
      · decide

end Binary64

namespace Deadline

/-- The clock has reached the deadline: nothing is left until it. -/
def Reached (deadline : Deadline) (now : Binary64) : Prop :=
  (deadline.instant.sub now).le .zero = true

instance (deadline : Deadline) (now : Binary64) : Decidable (deadline.Reached now) :=
  inferInstanceAs (Decidable ((deadline.instant.sub now).le .zero = true))

/-- With finite numbers, the clock has reached the deadline when it does not stand before it. -/
theorem reached_iff {limit : Binary64} {n m : Bool} {a b : Nat} :
    Reached ⟨limit, .finite n a⟩ (.finite m b) ↔ (Binary64.finite n a).le (.finite m b) = true :=
  Binary64.sub_le_zero_iff

end Deadline

/-- The time of a run is over: it is cancelled, or the clock has reached its deadline. -/
def Moment.Over (deadline : Option Deadline) (moment : Moment) : Prop :=
  moment.cancelled = true ∨ ∃ limit ∈ deadline, limit.Reached moment.now

instance (deadline : Option Deadline) (moment : Moment) : Decidable (moment.Over deadline) :=
  inferInstanceAs (Decidable (moment.cancelled = true ∨ ∃ limit ∈ deadline,
    limit.Reached moment.now))

theorem checkMoment_of_over {deadline : Option Deadline} {moment : Moment}
    (past : moment.Over deadline) (phase : Phase) :
    ∃ cause, checkMoment deadline moment phase = .error cause := by
  unfold checkMoment
  rcases past with cancelled | ⟨limit, rfl, reached⟩
  · exact ⟨.cancelled phase, if_pos cancelled⟩
  · have nothing : (limit.remaining moment.now).le .zero = true :=
      Binary64.atLeastZero_le_zero reached
    by_cases cancelled : moment.cancelled = true
    · exact ⟨.cancelled phase, if_pos cancelled⟩
    · exact ⟨.limitExceeded limit.limit phase, by simp [cancelled, nothing]⟩

namespace Exchange

/-- If the host is asked for the time, it shows that the time is over. -/
def ShowsEnd (deadline : Option Deadline) : Exchange → Prop
  | ⟨.observe, moment⟩ => Moment.Over deadline moment
  | _ => True

instance (deadline : Option Deadline) : DecidablePred (ShowsEnd deadline)
  | ⟨.observe, moment⟩ => inferInstanceAs (Decidable (Moment.Over deadline moment))
  | ⟨.tool .., _⟩ | ⟨.awaitTool _, _⟩ | ⟨.memory _, _⟩ | ⟨.stepEnded _, _⟩ => .isTrue trivial

/-- No tool and no memory is called, and no work that a tool handed back is taken up. -/
def IsIdle (exchange : Exchange) : Prop :=
  match exchange.query with
  | .observe | .stepEnded _ => True
  | .tool .. | .awaitTool _ | .memory _ => False

end Exchange

namespace Dialogue

variable {α β : Type} {deadline : Option Deadline}

/-- Begun when the time is over, a dialogue starts no work and ends in a certain way. -/
def Idles (deadline : Option Deadline) (ends : α → Prop) (dialogue : Dialogue α) : Prop :=
  ∀ asked a, dialogue.Path asked a → (∀ exchange ∈ asked, exchange.ShowsEnd deadline) →
    (∀ exchange ∈ asked, exchange.IsIdle) ∧ ends a

/-- Once the time is over during an exchange of a dialogue, the dialogue starts no work and ends in
a certain way. -/
def Halts (deadline : Option Deadline) (ends : α → Prop) (dialogue : Dialogue α) : Prop :=
  ∀ front last back a, dialogue.Path (front ++ last :: back) a →
    (∀ exchange ∈ last :: back, exchange.ShowsEnd deadline) →
    (∀ exchange ∈ back, exchange.IsIdle) ∧ ends a

theorem idles_done {ends : α → Prop} {a : α} (ended : ends a) : Idles deadline ends (done a) := by
  intro asked b path _
  obtain ⟨rfl, rfl⟩ := path_done_iff.mp path
  exact ⟨List.forall_mem_nil _, ended⟩

theorem halts_done (ends : α → Prop) (a : α) : Halts deadline ends (done a) := by
  intro front last back b path _
  have silent := (path_done_iff.mp path).1
  simp at silent

/-- What is looked up when the time is over shows it. -/
theorem idles_observe : Idles deadline (Moment.Over deadline) (query .observe) := by
  intro asked moment path past
  obtain rfl := path_query_iff.mp path
  refine ⟨?_, past _ List.mem_cons_self⟩
  intro exchange member
  obtain rfl := List.mem_singleton.mp member
  trivial

/-- The host may be told of the end of a statement at any time. -/
theorem idles_stepEnded (step : Step) :
    Idles deadline (fun _ => True) (query (.stepEnded step)) := by
  intro asked told path _
  obtain rfl := path_query_iff.mp path
  refine ⟨?_, trivial⟩
  intro exchange member
  obtain rfl := List.mem_singleton.mp member
  trivial

theorem halts_query (q : Query) :
    Halts deadline (fun answer => Exchange.ShowsEnd deadline ⟨q, answer⟩) (query q) := by
  intro front last back answer path past
  have single := path_query_iff.mp path
  obtain ⟨rfl, same⟩ | ⟨_, rfl, impossible⟩ := List.append_eq_cons_iff.mp single
  · obtain ⟨rfl, rfl⟩ := List.cons.inj same
    exact ⟨List.forall_mem_nil _, past _ List.mem_cons_self⟩
  · simp at impossible

theorem Idles.bind {first : α → Prop} {ends : β → Prop} {d : Dialogue α} {f : α → Dialogue β}
    (idles : Idles deadline first d) (later : ∀ a, first a → Idles deadline ends (f a)) :
    Idles deadline ends (d >>= f) := by
  intro asked b path past
  obtain ⟨a, front, back, begun, rest, rfl⟩ := path_bind_iff.mp path
  obtain ⟨idle, ended⟩ := idles front a begun fun exchange member =>
    past exchange (List.mem_append_left _ member)
  obtain ⟨idle', ended'⟩ := later a ended back b rest fun exchange member =>
    past exchange (List.mem_append_right _ member)
  refine ⟨?_, ended'⟩
  intro exchange member
  exact (List.mem_append.mp member).elim (idle exchange) (idle' exchange)

/-- The time may run out in the first dialogue, which is then followed by one that begins when it is
over, or in the second one. -/
theorem Halts.bind {first : α → Prop} {ends : β → Prop} {d : Dialogue α} {f : α → Dialogue β}
    (halts : Halts deadline first d) (later : ∀ a, Halts deadline ends (f a))
    (idles : ∀ a, first a → Idles deadline ends (f a)) : Halts deadline ends (d >>= f) := by
  intro front last back b path past
  obtain ⟨a, asked, asked', begun, rest, whole⟩ := path_bind_iff.mp path
  obtain ⟨between, rfl, rfl⟩ | ⟨between, rfl, rfl⟩ := append_cons_eq_append whole
  · have overFirst : ∀ exchange ∈ last :: between, exchange.ShowsEnd deadline :=
      fun exchange member =>
      past exchange (List.mem_append_left asked' member)
    obtain ⟨idle, ended⟩ := halts front last between a begun overFirst
    obtain ⟨idle', ended'⟩ := idles a ended asked' b rest fun exchange member =>
      past exchange (List.mem_cons_of_mem _ (List.mem_append_right _ member))
    refine ⟨?_, ended'⟩
    intro exchange member
    exact (List.mem_append.mp member).elim (idle exchange) (idle' exchange)
  · exact later a between last back b rest past

/-! ## Work under limits -/

/-- The result is a failure. -/
def Failed {ε α : Type} (result : Except ε α) : Prop :=
  ∃ error, result = .error error

theorem failed_error {ε α : Type} (error : ε) : Failed (.error error : Except ε α) :=
  ⟨error, rfl⟩

theorem Failed.map {ε α β : Type} {result : Except ε α} (failed : Failed result) (f : α → β) :
    Failed (result.map f) := by
  obtain ⟨error, rfl⟩ := failed
  exact ⟨error, rfl⟩

theorem Failed.mapError {ε δ α : Type} {result : Except ε α} (failed : Failed result) (f : ε → δ) :
    Failed (result.mapError f) := by
  obtain ⟨error, rfl⟩ := failed
  exact ⟨f error, rfl⟩

/-- A look at the time and what is decided by it. -/
private theorem halts_observed {ends : β → Prop} {f : Moment → Dialogue β}
    (later : ∀ moment, Halts deadline ends (f moment))
    (stops : ∀ moment, moment.Over deadline → Idles deadline ends (f moment)) :
    Halts deadline ends (query .observe >>= f) :=
  (halts_query .observe).bind later stops

private theorem halts_accept (work : String) (result : Yield) :
    Halts deadline Failed (accept deadline work result) := by
  refine halts_observed (fun moment => ?_) fun moment past => ?_
  · split
    · exact halts_done _ _
    · exact halts_done _ _
  · obtain ⟨cause, stopped⟩ := checkMoment_of_over past (.after work)
    rw [stopped]
    exact idles_done (failed_error _)

private theorem idles_accept (work : String) (result : Yield) :
    Idles deadline Failed (accept deadline work result) := by
  refine idles_observe.bind fun moment past => ?_
  obtain ⟨cause, stopped⟩ := checkMoment_of_over past (.after work)
  rw [stopped]
  exact idles_done (failed_error _)

/-- When the time is over, work that is done comes to a failure all the same. -/
theorem idles_settle (bound : Bound) (work : String) (completion : Completion) :
    Idles deadline Failed (settle deadline bound work completion) := by
  cases completion with
  | returned datum => exact idles_accept work _
  | pending => exact idles_accept work _
  | raised error => exact idles_done (failed_error error)
  | withdrawn =>
    refine idles_observe.bind fun moment past => ?_
    split
    · exact idles_done (failed_error _)
    · exact idles_done (failed_error _)
  | hung => exact idles_observe.bind fun moment past => idles_done (failed_error _)

theorem halts_settle (bound : Bound) (work : String) (completion : Completion) :
    Halts deadline Failed (settle deadline bound work completion) := by
  cases completion with
  | returned datum => exact halts_accept work _
  | pending => exact halts_accept work _
  | raised error => exact halts_done _ _
  | withdrawn =>
    refine halts_observed (fun moment => ?_) fun moment past => ?_
    · split
      · exact halts_done _ _
      · exact halts_done _ _
    · split
      · exact idles_done (failed_error _)
      · exact idles_done (failed_error _)
  | hung => exact halts_observed (fun moment => halts_done _ _) fun moment past =>
    idles_done (failed_error _)

/-- Work is not started when the time is over. -/
theorem idles_guarded (own : Option Binary64) (work : String) (start : Dialogue Completion) :
    Idles deadline Failed (guarded deadline own work start) := by
  refine idles_observe.bind fun moment past => ?_
  obtain ⟨cause, stopped⟩ := checkMoment_of_over past (.before work)
  rw [stopped]
  exact idles_done (failed_error _)

theorem halts_guarded (own : Option Binary64) (work : String) {start : Dialogue Completion}
    {started : Completion → Prop} (halts : Halts deadline started start) :
    Halts deadline Failed (guarded deadline own work start) := by
  refine halts_observed (fun moment => ?_) fun moment past => ?_
  · split
    · exact halts_done _ _
    · exact halts.bind (fun completion => halts_settle _ work completion) fun completion _ =>
        idles_settle _ work completion
  · obtain ⟨cause, stopped⟩ := checkMoment_of_over past (.before work)
    rw [stopped]
    exact idles_done (failed_error _)

end Dialogue

namespace MemoryAccess

open Dialogue

variable {access : MemoryAccess}

/-! ## The memory -/

theorem idles_perform (call : MemoryCall) : Idles access.deadline Failed (access.perform call) := by
  unfold perform
  split
  · refine (idles_guarded _ _ _).bind fun result failed => ?_
    exact idles_done ((failed.map yielded).mapError _)
  · exact idles_done (failed_error _)

theorem halts_perform (call : MemoryCall) : Halts access.deadline Failed (access.perform call) := by
  unfold perform
  split
  · refine (halts_guarded _ _ (halts_query (.memory call))).bind (fun result => halts_done _ _)
      fun result failed => ?_
    exact idles_done ((failed.map yielded).mapError _)
  · exact halts_done _ _

theorem halts_write (call : MemoryCall) : Halts access.deadline Failed (access.write call) :=
  (halts_perform call).bind (fun _ => halts_done _ _) fun _ failed => idles_done (failed.map _)

theorem idles_read (key : String) : Idles access.deadline Failed (access.read key) := by
  refine (idles_perform (.get key)).bind fun result failed => ?_
  obtain ⟨fault, rfl⟩ := failed
  exact idles_done (failed_error _)

theorem halts_read (key : String) : Halts access.deadline Failed (access.read key) := by
  refine (halts_perform (.get key)).bind (fun result => ?_) fun result failed => ?_
  · cases result with
    | error fault => exact halts_done _ _
    | ok datum => exact halts_done _ _
  · obtain ⟨fault, rfl⟩ := failed
    exact idles_done (failed_error _)

/-- When the time is over the first read fails, if there is anything to read. -/
theorem idles_hydrate (slot : String × Slot) (rest : List (String × Slot)) :
    Idles access.deadline Failed (access.hydrate (slot :: rest)) := by
  refine (idles_read slot.2.key).bind fun result failed => ?_
  obtain ⟨stop, rfl⟩ := failed
  exact idles_done (failed_error stop)

theorem halts_hydrate (slots : List (String × Slot)) :
    Halts access.deadline Failed (access.hydrate slots) := by
  induction slots with
  | nil => exact halts_done _ _
  | cons slot rest ih =>
    refine (halts_read slot.2.key).bind (fun result => ?_) fun result failed => ?_
    · cases result with
      | error stop => exact halts_done _ _
      | ok value =>
        refine ih.bind (fun values => ?_) fun values failed => ?_
        · cases values with
          | error stop => exact halts_done _ _
          | ok values => exact halts_done _ _
        · obtain ⟨stop, rfl⟩ := failed
          exact idles_done (failed_error stop)
    · obtain ⟨stop, rfl⟩ := failed
      exact idles_done (failed_error stop)

end MemoryAccess

namespace ToolCall

open Dialogue

variable {deadline : Option Deadline}

/-! ## Tools -/

theorem idles_answer (call : ToolCall) (limit : Option Binary64) :
    Idles deadline Failed (call.answer deadline limit) := by
  refine (idles_guarded _ _ _).bind fun result failed => ?_
  obtain ⟨error, rfl⟩ := failed
  exact idles_done (failed_error error)

/-- Work that a tool hands back is not awaited when the time is over. -/
theorem halts_answer (call : ToolCall) (limit : Option Binary64) :
    Halts deadline Failed (call.answer deadline limit) := by
  refine (halts_guarded _ _ (halts_query (.tool call.tool call.args))).bind (fun result => ?_)
    fun result failed => ?_
  · match result with
    | .error error => exact halts_done _ _
    | .ok (.data datum) => exact halts_done _ _
    | .ok .pending =>
      refine (halts_guarded _ _ (halts_query (.awaitTool call.tool))).bind (fun awaited => ?_)
        fun awaited failed => ?_
      · match awaited with
        | .error error => exact halts_done _ _
        | .ok (.data datum) => exact halts_done _ _
        | .ok .pending => exact halts_done _ _
      · obtain ⟨error, rfl⟩ := failed
        exact idles_done (failed_error error)
  · obtain ⟨error, rfl⟩ := failed
    exact idles_done (failed_error error)

private theorem conclude_failed (call : ToolCall) {work : Except HostError Datum}
    (failed : Failed work) :
    Failed (call.conclude work).result := by
  obtain ⟨error, rfl⟩ := failed
  cases error with
  | runtime fault => exact failed_error _
  | grammar message place => exact failed_error _
  | other typeName text => exact failed_error _

theorem idles_perform (call : ToolCall) (limit : Option Binary64) :
    Idles deadline (fun ended => Failed ended.result) (call.perform deadline limit) :=
  (idles_answer call limit).bind fun _ failed => idles_done (conclude_failed call failed)

theorem halts_perform (call : ToolCall) (limit : Option Binary64) :
    Halts deadline (fun ended => Failed ended.result) (call.perform deadline limit) :=
  (halts_answer call limit).bind (fun _ => halts_done _ _) fun _ failed =>
    idles_done (conclude_failed call failed)

end ToolCall

end BotScript
