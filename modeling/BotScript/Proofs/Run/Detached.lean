import BotScript.Proofs.Evaluation.Kinds
import BotScript.Proofs.Host.Raised
import BotScript.Proofs.Run.Reaches
import BotScript.Run.Statement

/-! Parts of runs that have nothing to do with the choice of the handler: they do not look at the
handler that was chosen, and they never stop for want of one. There is one rule for each way in
which parts are put together, and by these rules all statements are such parts. -/

namespace BotScript

/-- A state in which another handler was chosen. -/
def RunState.choosing (state : RunState) (handler : Option Nat) : RunState :=
  { state with handler }

/-- What follows a dialogue matters only for what it may end with. -/
theorem Dialogue.bind_congr {α β : Type} {d : Dialogue α} {f g : α → Dialogue β}
    (same : ∀ asked a, d.Path asked a → f a = g a) : d >>= f = d >>= g := by
  induction d with
  | done a => exact same [] a (.done a)
  | ask query next ih =>
    simp only [ask_bind]
    congr 1
    funext answer
    exact ih answer fun asked a path => same (⟨query, answer⟩ :: asked) a (.ask path)

namespace Run

open Exchange

variable {α β : Type} {past : List Exchange}

theorem outcome_host (dialogue : Dialogue α) (state : RunState) :
    (host dialogue).outcome state = dialogue >>= fun a => .done (.ok a, state) := by
  rw [outcome, narrate_host, Narrative.plain_bind, Narrative.plain_of]
  rfl

theorem outcome_attempt (part : Run α) (state : RunState) :
    (attempt part).outcome state =
      part.outcome state >>= fun ending => .done (.ok ending.1, ending.2) := by
  rw [outcome, narrate_attempt, Narrative.plain_bind]
  rfl

theorem outcome_inside (saved : Environment.Saved) (part : Run α) (state : RunState) :
    (inside saved part).outcome state = part.outcome state :=
  Narrative.plain_within _ _

/-- A stop for want of a handler is one that the host raised. -/
def Supplied (asked : List Exchange) (stop : Stop) : Prop :=
  ∀ cause, stop.cause? = some cause → cause.kind = .noHandler → Raised asked cause

theorem Supplied.mono {few many : List Exchange} {stop : Stop} (supplied : Supplied few stop)
    (subset : few ⊆ many) :
    Supplied many stop :=
  fun cause same kind => (supplied cause same kind).mono subset

theorem Supplied.locate {asked : List Exchange} {stop : Stop} (supplied : Supplied asked stop)
    (p : Position) :
    Supplied asked (stop.locate p) := by
  cases stop with
  | fault fault => exact supplied
  | escape escape => exact nofun

theorem supplied_of_cause {asked : List Exchange} {cause : Cause}
    (other : cause.kind ≠ .noHandler) :
    Supplied asked (.fault (.of cause)) := by
  intro facts same kind
  obtain rfl : cause = facts := Option.some.inj same
  exact absurd kind other

/-- No evaluation stops for want of a handler. -/
theorem supplied_of_native {asked : List Exchange} {value : Except Stop α} {stop : Stop}
    (native : Avoids Stop.IsForeign value) (stopped : value = .error stop) :
    Supplied asked stop := by
  intro cause same kind
  refine absurd ⟨cause, same, ?_⟩ (native stop stopped)
  rw [kind]
  exact nofun

/-- The host raised it, if it is a failure of that kind in something that the host did. -/
theorem supplied_of_raised {asked : List Exchange} {fault : Fault}
    (raised : fault.cause.kind.isProgram → Raised asked fault.cause) :
    Supplied (past ++ asked) (.fault fault) := by
  intro cause same kind
  obtain rfl : fault.cause = cause := Option.some.inj same
  have made : fault.cause.kind.isProgram := by
    rw [kind]
    rfl
  exact (raised made).mono (List.subset_append_right _ _)

/-- A part of a run that has nothing to do with the choice of the handler, after the host was asked
certain questions. -/
structure Detached (past : List Exchange) (part : Run α) : Prop where
  /-- It does not look at the handler that was chosen, and leaves it as it is. -/
  blind : ∀ handler state, part.outcome (state.choosing handler) =
    part.outcome state >>= fun ending => .done (ending.1, ending.2.choosing handler)
  supplied : ∀ before asked stop after, Reaches part before asked (.error stop) after →
      Supplied (past ++ asked) stop

theorem detached_pure (a : α) : Detached past (pure a) where
  blind _ _ := rfl
  supplied _ _ _ _ reached := by cases (reaches_pure.mp reached).2.1

theorem detached_throw {stop : Stop} (other : Supplied past stop) :
    Detached past (throw stop : Run α) where
  blind _ _ := rfl
  supplied before asked stop after reached := by
    obtain ⟨rfl, same, -⟩ := reaches_throw.mp reached
    obtain rfl := Except.error.inj same
    exact other.mono (by simp)

/-- A change that neither looks at the handler nor touches it. -/
theorem detached_modify {f : RunState → RunState}
    (apart : ∀ handler state, f (state.choosing handler) = (f state).choosing handler) :
    Detached past (modify f : Run Unit) where
  blind handler state := by
    change Dialogue.done (Except.ok (), f (state.choosing handler)) = Dialogue.done (Except.ok (),
      (f state).choosing handler)
    rw [apart]
  supplied _ _ _ _ reached := by cases (reaches_modify.mp reached).2.1

theorem detached_evaluated {value : Except Stop α}
    (supplied : ∀ stop, value = .error stop → Supplied past stop) :
    Detached past (evaluated value) := by
  cases value with
  | ok a => exact detached_pure a
  | error stop => exact detached_throw (supplied stop rfl)

theorem detached_checked {value : Except Cause α}
    (others : ∀ cause, value = .error cause → cause.kind ≠ .noHandler) :
    Detached past (checked value) := by
  cases value with
  | ok a => exact detached_pure a
  | error cause => exact detached_throw (supplied_of_cause (others cause rfl))

namespace Detached

theorem mono {few many : List Exchange} {part : Run α} (detached : Detached few part)
    (subset : few ⊆ many) :
    Detached many part where
  blind := detached.blind
  supplied before asked stop after reached :=
    (detached.supplied before asked stop after reached).mono (List.append_subset.mpr
      ⟨fun _ member => List.mem_append_left _ (subset member), List.subset_append_right _ _⟩)

theorem behind {part : Run α} (detached : Detached past part) (asked : List Exchange) :
    Detached (past ++ asked) part :=
  detached.mono (List.subset_append_left _ _)

/-- One part after the other. -/
theorem bind {part : Run α} {next : α → Run β} (first : Detached past part)
    (later : ∀ asked a, Detached (past ++ asked) (next a)) : Detached past (part >>= next) where
  blind handler state := by
    rw [outcome_bind, outcome_bind, first.blind, Dialogue.bind_assoc, Dialogue.bind_assoc]
    congr 1
    funext ending
    obtain ⟨result, middle⟩ := ending
    cases result with
    | ok a => exact (later [] a).blind handler middle
    | error stop => rfl
  supplied before asked stop after reached := by
    rcases reaches_bind.mp reached with ⟨a, front, middle, back, -, rest, rfl⟩ | ⟨_, stopped, same⟩
    · rw [← List.append_assoc]
      exact (later front a).supplied _ _ _ _ rest
    · obtain rfl := Except.error.inj same
      exact first.supplied _ _ _ _ stopped

/-- What the host answers, and what is done with it. -/
theorem host_bind {dialogue : Dialogue α} {next : α → Run β}
    (later : ∀ asked a, dialogue.Path asked a → Detached (past ++ asked) (next a)) :
    Detached past (host dialogue >>= next) where
  blind handler state := by
    simp only [outcome_bind, outcome_host, Dialogue.bind_assoc, Dialogue.done_bind]
    exact Dialogue.bind_congr fun asked a path => (later asked a path).blind handler state
  supplied before asked stop after reached := by
    obtain ⟨a, front, back, path, rest, rfl⟩ := reaches_host_bind.mp reached
    rw [← List.append_assoc]
    exact (later front a path).supplied _ _ _ _ rest

/-- A part whose outcome is kept, and what is done with the outcome. -/
theorem attempt_bind {part : Run α} {next : Except Stop α → Run β} (first : Detached past part)
    (later : ∀ asked kept, (∀ stop, kept = .error stop → Supplied (past ++ asked) stop) →
      Detached (past ++ asked) (next kept)) : Detached past (attempt part >>= next) where
  blind handler state := by
    simp only [outcome_bind, outcome_attempt, first.blind, Dialogue.bind_assoc, Dialogue.done_bind]
    refine Dialogue.bind_congr fun asked ending path => ?_
    refine (later asked ending.1 fun stop same => ?_).blind handler ending.2
    refine first.supplied state asked stop ending.2 ?_
    rw [← same]
    exact path
  supplied before asked stop after reached := by
    obtain ⟨kept, front, middle, back, tried, rest, rfl⟩ := reaches_attempt_bind.mp reached
    rw [← List.append_assoc]
    refine (later front kept fun stop same => ?_).supplied _ _ _ _ rest
    subst same
    exact first.supplied _ _ _ _ tried

theorem evaluated_bind {value : Except Stop α} {next : α → Run β}
    (supplied : ∀ stop, value = .error stop → Supplied past stop)
    (later : ∀ a, Detached past (next a)) :
    Detached past (evaluated value >>= next) :=
  (detached_evaluated supplied).bind fun asked a => (later a).behind asked

theorem checked_bind {value : Except Cause α} {next : α → Run β}
    (others : ∀ cause, value = .error cause → cause.kind ≠ .noHandler)
    (later : ∀ a, Detached past (next a)) :
    Detached past (checked value >>= next) :=
  (detached_checked others).bind fun asked a => (later a).behind asked

theorem modify_bind {f : RunState → RunState} {next : PUnit → Run α}
    (apart : ∀ handler state, f (state.choosing handler) = (f state).choosing handler)
    (later : Detached past (next ⟨⟩)) : Detached past (modify f >>= next) :=
  (detached_modify apart).bind fun asked _ => later.behind asked

/-- A look at anything but the handler. -/
theorem get_bind {next : RunState → Run α}
    (apart : ∀ handler state, next (state.choosing handler) = next state)
    (later : ∀ state, Detached past (next state)) : Detached past (get >>= next) where
  blind handler state := by
    have looked : ∀ state, (get >>= next).outcome state = (next state).outcome state := fun _ => rfl
    rw [looked, looked, apart]
    exact (later state).blind handler state
  supplied before _ _ _ reached := (later before).supplied _ _ _ _ (reaches_get_bind.mp reached)

theorem env_bind {next : Environment → Run α} (later : ∀ env, Detached past (next env)) :
    Detached past (env >>= next) where
  blind handler state := (later state.env).blind handler state
  supplied before _ _ _ reached := (later before.env).supplied _ _ _ _ (reaches_env_bind.mp reached)

theorem inside {part : Run α} (inner : Detached past part) (saved : Environment.Saved) :
    Detached past (inside saved part) where
  blind handler state := by
    rw [outcome_inside, outcome_inside]
    exact inner.blind handler state
  supplied _ _ _ _ reached := inner.supplied _ _ _ _ (reaches_inside.mp reached)

theorem restoring {part : Run α} (inner : Detached past part) (name : String) :
    Detached past (restoring name part) := by
  unfold Run.restoring
  refine env_bind fun _ => (inner.inside _).attempt_bind fun asked kept supplied => ?_
  exact modify_bind (fun _ _ => rfl) (detached_evaluated supplied)

theorem forEach {part : β → Run Unit} (each : ∀ item, Detached past (part item)) (items : List β) :
    Detached past (forEach part items) := by
  induction items with
  | nil => exact detached_pure ()
  | cons item rest ih => exact (each item).bind fun asked _ => ih.behind asked

end Detached

theorem detached_checkpoint (deadline : Option Deadline) : Detached past (checkpoint deadline) := by
  refine .host_bind fun asked moment _ => detached_checked fun cause late kind => ?_
  refine absurd ?_ (checkMoment_kind late)
  rw [kind]
  rfl

theorem detached_begin (kind : StepKind) (p : Position) : Detached past (begin kind p) :=
  .get_bind (fun _ _ => rfl) fun _ => .modify_bind (fun _ _ => rfl) (detached_pure _)

theorem detached_finish (index : Nat) (outcome : StepOutcome) :
    Detached past (finish index outcome) := by
  refine .modify_bind (fun _ _ => rfl) (.get_bind (fun _ _ => rfl) fun state => ?_)
  split
  · exact detached_pure ()
  · refine .modify_bind (fun _ _ => rfl) (.host_bind fun asked told _ => ?_)
    split
    · exact detached_pure ()
    · exact detached_modify fun _ _ => rfl

theorem Detached.recorded {statement : Nat → Run Unit}
    (inner : ∀ past index, Detached past (statement index)) (deadline : Option Deadline)
    (kind : StepKind) (p : Position) :
    Detached past (recorded deadline kind p statement) := by
  unfold Run.recorded
  refine (detached_checkpoint deadline).bind fun _ _ =>
    (detached_begin kind p).bind fun _ index => ?_
  refine (inner _ index).attempt_bind fun asked kept supplied =>
    (detached_finish index _).bind fun later _ => ?_
  refine (detached_evaluated fun stop same => ?_)
  cases kept with
  | ok _ => cases same
  | error first =>
    obtain rfl := Except.error.inj same
    exact ((supplied first rfl).locate p).mono (List.subset_append_left _ _)

/-! ## Why statements are refused -/

section

variable {setup : Setup}

theorem assistant_kind {cause : Cause} (refused : assistant setup = .error cause) :
    cause.kind = .unknownTool := by
  unfold assistant at refused
  dsimp only at refused
  split at refused
  · cases refused
  · obtain rfl := Except.error.inj refused
    rfl

theorem require_kind {catalogue : Catalogue} {name : String} {cause : Cause}
    (refused : catalogue.require name = .error cause) : cause.kind = .unknownTool := by
  unfold Catalogue.require at refused
  split at refused
  · cases refused
  · obtain rfl := Except.error.inj refused
    rfl

theorem memoryKey_kind {value : Value} {cause : Cause} (refused : value.memoryKey = .error cause) :
    cause.kind = .type := by
  unfold Value.memoryKey at refused
  repeat' split at refused
  all_goals cases refused
  all_goals rfl

theorem loopItems_kind {value : Value} {cause : Cause} (refused : value.loopItems = .error cause) :
    cause.kind = .type := by
  unfold Value.loopItems at refused
  split at refused
  · cases refused
  · obtain rfl := Except.error.inj refused
    rfl

/-! ## Statements -/

theorem detached_callTool (call : ToolCall) : Detached past (callTool setup call) := by
  refine .modify_bind (fun _ _ => rfl)
    (.host_bind fun asked ended path => .modify_bind (fun _ _ => rfl) ?_)
  cases given : ended.result with
  | ok result => exact detached_pure result
  | error fault => exact detached_throw (supplied_of_raised (ToolCall.perform_raised path given))

theorem detached_hosted_write (call : MemoryCall) :
    Detached past (hosted (setup.memory.write call)) := by
  refine .host_bind fun asked given path => ?_
  cases given with
  | ok written => exact detached_pure written
  | error fault => exact detached_throw (supplied_of_raised (MemoryAccess.write_raised path))

theorem detached_say (expr : Expr) (index : Nat) : Detached past (execSay setup expr index) := by
  refine .env_bind fun env => .evaluated_bind (fun _ => supplied_of_native (expr.render_native env))
    fun text => ?_
  exact .modify_bind (fun _ _ => rfl) (detached_modify fun _ _ => rfl)

theorem detached_ask (prompt : Expr) (options : List (String × Expr)) (index : Nat) :
    Detached past (execAsk setup prompt options index) := by
  refine .env_bind fun env =>
    .evaluated_bind (fun _ => supplied_of_native (Expr.render_native env prompt)) fun text => ?_
  refine .evaluated_bind (fun _ => supplied_of_native (Expr.evaluateEntries_native env options))
    fun values => ?_
  refine .checked_bind (fun cause refused => assistant_kind refused ▸ nofun) fun named => ?_
  refine .modify_bind (fun _ _ => rfl) (.modify_bind (fun _ _ => rfl) ?_)
  exact (detached_callTool _).bind fun _ _ => detached_modify fun _ _ => rfl

theorem detached_set (name : String) (expr : Expr) (index : Nat) :
    Detached past (execSet setup name expr index) := by
  refine .env_bind fun env =>
    .evaluated_bind (fun _ => supplied_of_native (expr.evaluate_native env)) fun value => ?_
  refine .modify_bind (fun _ _ => rfl) (.modify_bind (fun _ _ => rfl) ?_)
  split
  · exact detached_pure ()
  · exact detached_hosted_write _

theorem detached_call (name : String) (args : List (String × Expr)) (bindAs : Option String)
    (index : Nat) :
    Detached past (execCall setup name args bindAs index) := by
  refine .modify_bind (fun _ _ => rfl)
    (.checked_bind (fun cause refused => require_kind refused ▸ nofun) fun tool => ?_)
  refine .env_bind fun env =>
    .evaluated_bind (fun _ => supplied_of_native (Expr.evaluateEntries_native env args))
    fun values => ?_
  refine .modify_bind (fun _ _ => rfl)
    (.modify_bind (fun _ _ => rfl) ((detached_callTool _).bind fun _ result => ?_))
  split
  · exact detached_pure ()
  · exact detached_modify fun _ _ => rfl

theorem detached_remember (key value : Expr) (mode : RememberMode) (index : Nat) :
    Detached past (execRemember setup key value mode index) := by
  refine .env_bind fun env =>
    .evaluated_bind (fun _ => supplied_of_native (key.evaluate_native env)) fun given => ?_
  refine .checked_bind (fun cause refused => memoryKey_kind refused ▸ nofun) fun found => ?_
  refine .evaluated_bind (fun _ => supplied_of_native (value.evaluate_native env)) fun kept => ?_
  refine .modify_bind (fun _ _ => rfl) ?_
  split
  · exact detached_hosted_write _
  · exact detached_hosted_write _

theorem detached_recollect (key : Expr) (bindAs : String) (index : Nat) :
    Detached past (execRecollect setup key bindAs index) := by
  refine .env_bind fun env =>
    .evaluated_bind (fun _ => supplied_of_native (key.evaluate_native env)) fun given => ?_
  refine .checked_bind (fun cause refused => memoryKey_kind refused ▸ nofun) fun found => ?_
  refine .host_bind fun asked read path => .evaluated_bind (fun stop stopped => ?_) fun value => ?_
  · subst stopped
    cases stop with
    | escape escape => exact nofun
    | fault fault => exact supplied_of_raised (MemoryAccess.read_raised path)
  · exact .modify_bind (fun _ _ => rfl) (detached_modify fun _ _ => rfl)

mutual

/-- Every statement has nothing to do with the choice of the handler. -/
theorem detached_exec (past : List Exchange) (stmt : Stmt) : Detached past (exec setup stmt) := by
  match stmt with
  | .say expr p =>
    rw [exec]
    exact .recorded (fun _ => detached_say expr) _ _ _
  | .ask prompt options p =>
    rw [exec]
    exact .recorded (fun _ => detached_ask prompt options) _ _ _
  | .set name expr p =>
    rw [exec]
    exact .recorded (fun _ => detached_set name expr) _ _ _
  | .call tool args bindAs p =>
    rw [exec]
    exact .recorded (fun _ => detached_call tool args bindAs) _ _ _
  | .branch condition thenBody elseBody p =>
    rw [exec]
    refine .recorded (fun past index => .env_bind fun env => ?_) _ _ _
    refine .evaluated_bind (fun _ => supplied_of_native (condition.condition_native env _))
      fun holds => ?_
    refine .modify_bind (fun _ _ => rfl) ?_
    split
    · exact detached_execAll past thenBody
    · exact detached_execElse past elseBody
  | .loop item collection body p =>
    rw [exec]
    refine .recorded (fun past index => .env_bind fun env => ?_) _ _ _
    refine .evaluated_bind (fun _ => supplied_of_native (collection.evaluate_native env))
      fun value => ?_
    refine .checked_bind (fun cause refused => loopItems_kind refused ▸ nofun) fun items => ?_
    refine .modify_bind (fun _ _ => rfl) (.restoring (.forEach (fun value => ?_) items) item)
    exact .modify_bind (fun _ _ => rfl) (detached_execAll past body)
  | .remember key value mode p =>
    rw [exec]
    exact .recorded (fun _ => detached_remember key value mode) _ _ _
  | .recollect key bindAs p =>
    rw [exec]
    exact .recorded (fun _ => detached_recollect key bindAs) _ _ _

theorem detached_execAll (past : List Exchange) (body : List Stmt) :
    Detached past (execAll setup body) := by
  match body with
  | [] =>
    rw [execAll]
    exact detached_pure ()
  | stmt :: rest =>
    rw [execAll]
    exact (detached_exec past stmt).bind fun asked _ => detached_execAll (past ++ asked) rest

theorem detached_execElse (past : List Exchange) (body : Option (List Stmt)) :
    Detached past (execElse setup body) := by
  match body with
  | none =>
    rw [execElse]
    exact detached_pure ()
  | some body =>
    rw [execElse]
    exact detached_execAll past body

end

end

end Run

end BotScript
