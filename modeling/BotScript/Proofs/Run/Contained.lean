import BotScript.Proofs.Host.Conversion
import BotScript.Proofs.Run.Reaches
import BotScript.Proofs.Syntax.Each
import BotScript.Run.Statement

/-! Parts of runs that stop only with a report. There is one rule for each way in which parts are
put together; by these rules no statement with readable expressions ends a run without a result,
whatever the tools and the memory do. -/

namespace BotScript.Run

variable {α β : Type}

/-- A part that stops at most with a failure that results report, as long as data in the memory has
a value. -/
def Contained (part : Run α) : Prop :=
  ∀ before asked result after, Reaches part before asked result after →
    (∀ exchange ∈ asked, exchange.Converts) →
    Reported result

theorem contained_pure (a : α) : Contained (pure a) := by
  intro before asked result after reached _
  obtain ⟨-, rfl, -⟩ := reaches_pure.mp reached
  exact .ok a

theorem contained_fault (fault : Fault) : Contained (throw (.fault fault) : Run α) := by
  intro before asked result after reached _
  obtain ⟨-, rfl, -⟩ := reaches_throw.mp reached
  exact .error id

theorem contained_modify (f : RunState → RunState) : Contained (modify f : Run Unit) := by
  intro before asked result after reached _
  obtain ⟨-, rfl, -⟩ := reaches_modify.mp reached
  exact .ok ()

theorem contained_evaluated {value : Except Stop α} (reported : Reported value) :
    Contained (evaluated value) := by
  intro before asked result after reached _
  obtain ⟨-, rfl, -⟩ := reaches_evaluated.mp reached
  exact reported

theorem contained_hosted (dialogue : Dialogue (Except Fault α)) : Contained (hosted dialogue) := by
  intro before asked result after reached _
  obtain ⟨given, -, rfl, -⟩ := reaches_hosted.mp reached
  exact .mapError (fun _ => id) given

namespace Contained

/-- One part after the other. -/
theorem bind {part : Run α} {next : α → Run β} (first : Contained part)
    (later : ∀ a, Contained (next a)) :
    Contained (part >>= next) := by
  intro before asked result after reached converts
  rcases reaches_bind.mp reached with ⟨a, front, middle, back, -, rest, rfl⟩ | ⟨stop, stopped, rfl⟩
  · exact later a _ _ _ _ rest fun exchange member =>
      converts exchange (List.mem_append_right _ member)
  · exact .error (first _ _ _ _ stopped converts stop rfl)

theorem get_bind {next : RunState → Run α} (later : ∀ state, Contained (next state)) :
    Contained (get >>= next) :=
  fun before asked result after reached =>
    later before before asked result after (reaches_get_bind.mp reached)

theorem env_bind {next : Environment → Run α} (later : ∀ env, Contained (next env)) :
    Contained (env >>= next) :=
  fun before asked result after reached =>
    later before.env before asked result after (reaches_env_bind.mp reached)

theorem modify_bind {f : RunState → RunState} {next : PUnit → Run α} (later : Contained (next ⟨⟩)) :
    Contained (modify f >>= next) :=
  fun before asked result after reached =>
    later (f before) asked result after (reaches_modify_bind.mp reached)

theorem evaluated_bind {value : Except Stop α} {next : α → Run β} (reported : Reported value)
    (later : ∀ a, value = .ok a → Contained (next a)) : Contained (evaluated value >>= next) := by
  intro before asked result after reached converts
  rcases reaches_evaluated_bind.mp reached with ⟨a, same, rest⟩ | ⟨stop, same, -, rfl, -⟩
  · exact later a same _ _ _ _ rest converts
  · exact .error (reported stop same)

theorem checked_bind {value : Except Cause α} {next : α → Run β}
    (later : ∀ a, value = .ok a → Contained (next a)) :
    Contained (checked value >>= next) := by
  intro before asked result after reached converts
  rcases reaches_checked_bind.mp reached with ⟨a, same, rest⟩ | ⟨cause, -, -, rfl, -⟩
  · exact later a same _ _ _ _ rest converts
  · exact .error id

/-- What the host answers, and what is done with it. -/
theorem host_bind {dialogue : Dialogue α} {next : α → Run β}
    (later : ∀ asked a, dialogue.Path asked a → (∀ exchange ∈ asked, exchange.Converts) →
      Contained (next a)) :
    Contained (host dialogue >>= next) := by
  intro before asked result after reached converts
  obtain ⟨a, front, back, path, rest, rfl⟩ := reaches_host_bind.mp reached
  have answered := later front a path fun exchange member =>
    converts exchange (List.mem_append_left _ member)
  exact answered _ _ _ _ rest fun exchange member =>
    converts exchange (List.mem_append_right _ member)

/-- A part whose outcome is kept, and what is done with the outcome. -/
theorem attempt_bind {part : Run α} {next : Except Stop α → Run β} (first : Contained part)
    (later : ∀ kept, Reported kept → Contained (next kept)) :
    Contained (attempt part >>= next) := by
  intro before asked result after reached converts
  obtain ⟨kept, front, middle, back, tried, rest, rfl⟩ := reaches_attempt_bind.mp reached
  have reported := first _ _ _ _ tried fun exchange member =>
    converts exchange (List.mem_append_left _ member)
  exact later kept reported _ _ _ _ rest fun exchange member =>
    converts exchange (List.mem_append_right _ member)

theorem inside {part : Run α} (inner : Contained part) (saved : Environment.Saved) :
    Contained (inside saved part) :=
  fun before asked result after reached =>
    inner before asked result after (reaches_inside.mp reached)

theorem restoring {part : Run α} (inner : Contained part) (name : String) :
    Contained (restoring name part) := by
  unfold Run.restoring
  exact env_bind fun _ => attempt_bind (inner.inside _) fun kept reported =>
    modify_bind (contained_evaluated reported)

theorem forEach {part : β → Run Unit} (each : ∀ item, Contained (part item)) (items : List β) :
    Contained (forEach part items) := by
  induction items with
  | nil => exact contained_pure ()
  | cons item rest ih => exact (each item).bind fun _ => ih

end Contained

theorem contained_checkpoint (deadline : Option Deadline) : Contained (checkpoint deadline) := by
  unfold checkpoint
  refine .host_bind fun asked moment _ _ => ?_
  intro before asked result after reached _
  obtain ⟨-, rfl, -⟩ := reaches_checked.mp reached
  exact .mapError (fun _ => id) _

theorem contained_begin (kind : StepKind) (p : Position) : Contained (begin kind p) := by
  unfold begin
  exact .get_bind fun _ => .modify_bind (contained_pure _)

theorem contained_finish (index : Nat) (outcome : StepOutcome) :
    Contained (finish index outcome) := by
  unfold finish
  refine .modify_bind (.get_bind fun state => ?_)
  split
  · exact contained_pure ()
  · refine .modify_bind (.host_bind fun asked told _ _ => ?_)
    split
    · exact contained_pure ()
    · exact contained_modify _

theorem Contained.recorded {statement : Nat → Run Unit}
    (inner : ∀ index, Contained (statement index)) (deadline : Option Deadline) (kind : StepKind)
    (p : Position) : Contained (recorded deadline kind p statement) := by
  unfold Run.recorded
  refine (contained_checkpoint deadline).bind fun _ => (contained_begin kind p).bind fun index => ?_
  refine .attempt_bind (inner index) fun kept reported =>
    (contained_finish index _).bind fun _ => ?_
  refine contained_evaluated ?_
  match kept with
  | .ok () => exact .ok ()
  | .error (.fault fault) => exact .error id
  | .error (.escape escape) => exact absurd trivial (reported _ rfl)

/-! ## Statements -/

section

variable {setup : Setup}

theorem contained_callTool (call : ToolCall) : Contained (callTool setup call) := by
  unfold callTool
  refine .modify_bind (.host_bind fun asked ended _ _ => .modify_bind ?_)
  split
  · exact contained_pure _
  · exact contained_fault _

theorem contained_say {expr : Expr} (readable : expr.Readable) (index : Nat) :
    Contained (execSay setup expr index) := by
  unfold execSay
  exact .env_bind fun _ => .evaluated_bind readable.render_reported fun _ _ =>
    .modify_bind (contained_modify _)

theorem contained_ask {prompt : Expr} {options : List (String × Expr)} (readable : prompt.Readable)
    (chosen : ∀ option ∈ options, option.2.Readable) (index : Nat) :
    Contained (execAsk setup prompt options index) := by
  unfold execAsk
  refine .env_bind fun env => .evaluated_bind readable.render_reported fun text _ => ?_
  refine .evaluated_bind (Expr.evaluateEntries_reported chosen) fun values _ =>
    .checked_bind fun named _ => ?_
  exact .modify_bind (.modify_bind ((contained_callTool _).bind fun result => contained_modify _))

theorem contained_set {expr : Expr} (readable : expr.Readable) (name : String) (index : Nat) :
    Contained (execSet setup name expr index) := by
  unfold execSet
  refine .env_bind fun env => .evaluated_bind readable.evaluate_reported fun value _ => ?_
  refine .modify_bind (.modify_bind ?_)
  split
  · exact contained_pure ()
  · exact contained_hosted _

theorem contained_call {args : List (String × Expr)} (given : ∀ arg ∈ args, arg.2.Readable)
    (name : String) (bindAs : Option String) (index : Nat) :
    Contained (execCall setup name args bindAs index) := by
  unfold execCall
  refine .modify_bind (.checked_bind fun tool _ => .env_bind fun env => ?_)
  refine .evaluated_bind (Expr.evaluateEntries_reported given) fun values _ =>
    .modify_bind (.modify_bind ?_)
  refine (contained_callTool _).bind fun result => ?_
  split
  · exact contained_pure ()
  · exact contained_modify _

theorem contained_remember {key value : Expr} (keyed : key.Readable) (given : value.Readable)
    (mode : RememberMode) (index : Nat) : Contained (execRemember setup key value mode index) := by
  unfold execRemember
  refine .env_bind fun env => .evaluated_bind keyed.evaluate_reported fun _ _ =>
    .checked_bind fun _ _ => ?_
  refine .evaluated_bind given.evaluate_reported fun _ _ => .modify_bind ?_
  split
  · exact contained_hosted _
  · exact contained_hosted _

theorem contained_recollect {key : Expr} (keyed : key.Readable) (bindAs : String) (index : Nat) :
    Contained (execRecollect setup key bindAs index) := by
  unfold execRecollect
  refine .env_bind fun env => .evaluated_bind keyed.evaluate_reported fun _ _ =>
    .checked_bind fun _ _ => ?_
  refine .host_bind fun asked given path converts => ?_
  have reported := MemoryAccess.read_reported path converts
  exact .evaluated_bind reported fun value _ => .modify_bind (contained_modify _)

theorem contained_execAll {body : List Stmt} (each : ∀ stmt ∈ body, Contained (exec setup stmt)) :
    Contained (execAll setup body) := by
  induction body with
  | nil =>
    rw [execAll]
    exact contained_pure ()
  | cons stmt rest ih =>
    rw [execAll]
    exact (each stmt List.mem_cons_self).bind fun _ => ih fun other member =>
      each other (List.mem_cons_of_mem _ member)

/-- A statement with readable expressions stops a run only with a report. -/
theorem contained_exec {stmt : Stmt} (readable : stmt.Each (fun _ => True) Expr.Readable) :
    Contained (exec setup stmt) := by
  induction readable with
  | say said =>
    rw [exec]
    exact .recorded (contained_say said) _ _ _
  | ask asked chosen _ =>
    rw [exec]
    exact .recorded (contained_ask asked chosen) _ _ _
  | set _ given =>
    rw [exec]
    exact .recorded (contained_set given _) _ _ _
  | call given _ =>
    rw [exec]
    exact .recorded (contained_call given _ _) _ _ _
  | branch tested _ _ inThen inElse =>
    rw [exec]
    refine .recorded (fun index => ?_) _ _ _
    refine .env_bind fun env => .evaluated_bind (tested.condition_reported _) fun holds _ =>
      .modify_bind ?_
    split
    · exact contained_execAll inThen
    · rename_i elseBody _ _ _ _ _
      cases elseBody with
      | none =>
        rw [execElse]
        exact contained_pure ()
      | some body =>
        rw [execElse]
        exact contained_execAll (inElse body rfl)
  | loop _ collected _ inside =>
    rw [exec]
    refine .recorded (fun index => ?_) _ _ _
    refine .env_bind fun env => .evaluated_bind collected.evaluate_reported fun _ _ =>
      .checked_bind fun items _ => ?_
    refine .modify_bind (.restoring
      (.forEach (fun value => .modify_bind (contained_execAll inside)) items) _)
  | remember keyed given =>
    rw [exec]
    exact .recorded (contained_remember keyed given _) _ _ _
  | recollect keyed _ =>
    rw [exec]
    exact .recorded (contained_recollect keyed _) _ _ _

end

end BotScript.Run
