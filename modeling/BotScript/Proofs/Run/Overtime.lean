import BotScript.Proofs.Host.Overtime
import BotScript.Proofs.Run.Takes
import BotScript.Run.Statement

/-! Parts of runs when the time is over. From then on no statement begins and nothing that a run
leaves behind changes any more, except that the open loops put the bindings back that they keep. -/

namespace BotScript

/-- A record without the end of its statement. -/
def Step.begun (step : Step) : Step :=
  { step with outcome := .running }

/-- The variables of a run with everything put back that its open loops keep, the innermost loop's
binding first. -/
def Standing.restored (standing : Standing) : Environment :=
  standing.aside.foldl Environment.restore standing.state.env

/-- Nothing has come of a run since it stood in some way: its records are the same up to how their
statements ended, and its variables look the same. -/
structure Rests (view : Environment → Environment) (standing : Standing) (after : RunState) :
    Prop where
  steps : after.steps.map Step.begun = standing.state.steps.map Step.begun
  output : after.output = standing.state.output
  transcript : after.transcript = standing.state.transcript
  env : view after.env = view standing.restored

namespace Rests

variable {view : Environment → Environment} {standing : Standing} {middle after : RunState}

theorem refl (view : Environment → Environment) (state : RunState) : Rests view ⟨state, []⟩ state :=
  ⟨rfl, rfl, rfl, rfl⟩

theorem trans (first : Rests view standing middle) (second : Rests view ⟨middle, []⟩ after) :
    Rests view standing after :=
  ⟨second.steps.trans first.steps, second.output.trans first.output,
    second.transcript.trans first.transcript,
    second.env.trans first.env⟩

theorem weaken (rests : Rests id standing after) (view : Environment → Environment) :
    Rests view standing after :=
  ⟨rests.steps, rests.output, rests.transcript, congrArg view rests.env⟩

/-- The end of a statement changes nothing but its record's outcome. -/
theorem finished (view : Environment → Environment) (state : RunState) (index : Nat)
    (outcome : StepOutcome) :
    Rests view ⟨state, []⟩
      { state with steps := state.steps.modify index fun step => { step with outcome } } where
  steps := by
    refine List.ext_getElem? fun place => ?_
    rw [List.getElem?_map, List.getElem?_map, List.getElem?_modify]
    by_cases here : index = place
    · cases state.steps[place]? <;> simp [here, Step.begun]
    · cases state.steps[place]? <;> simp [here]
  output := rfl
  transcript := rfl
  env := rfl

theorem told (view : Environment → Environment) (state : RunState) (journal : List Event) :
    Rests view ⟨state, []⟩ { state with journal } :=
  ⟨rfl, rfl, rfl, rfl⟩

end Rests

namespace Run

variable {α β : Type} {deadline : Option Deadline} {view : Environment → Environment}

/-- The time of the run is over at every look that is taken in these turns. -/
def OverIn (deadline : Option Deadline) (turns : List (Turn Standing)) : Prop :=
  ∀ turn ∈ turns, turn.exchange.ShowsEnd deadline

/-- No work is started in these turns. -/
def IdleIn (turns : List (Turn Standing)) : Prop :=
  ∀ turn ∈ turns, turn.exchange.IsIdle

theorem idleIn_append {front back : List (Turn Standing)} (first : IdleIn front)
    (second : IdleIn back) :
    IdleIn (front ++ back) :=
  fun turn member => (List.mem_append.mp member).elim (first turn) (second turn)

/-- Begun when the time is over, a part starts no work, leaves the run as it is and ends in a
certain way. -/
def Idles (deadline : Option Deadline) (view : Environment → Environment)
    (ends : Except Stop α → Prop) (part : Run α) : Prop :=
  ∀ before turns result after, Takes part before turns result after → OverIn deadline turns →
    IdleIn turns ∧ Rests view ⟨before, []⟩ after ∧ ends result

/-- Once the time is over during a turn of a part, the part starts no work, leaves the run as it
stood in that turn and ends in a certain way. -/
def Halts (deadline : Option Deadline) (view : Environment → Environment)
    (ends : Except Stop α → Prop) (part : Run α) : Prop :=
  ∀ before front last back result after, Takes part before (front ++ last :: back) result after →
    OverIn deadline (last :: back) → IdleIn back ∧ Rests view last.standing after ∧ ends result

/-- How a part ends does not matter. -/
def Anyhow (_ : Except Stop α) : Prop := True

open Dialogue (Failed failed_error)

theorem Idles.anyhow {ends : Except Stop α → Prop} {part : Run α}
    (idles : Idles deadline view ends part) :
    Idles deadline view Anyhow part := by
  intro before turns result after taken past
  obtain ⟨idle, rests, -⟩ := idles before turns result after taken past
  exact ⟨idle, rests, trivial⟩

theorem Halts.anyhow {ends : Except Stop α → Prop} {part : Run α}
    (halts : Halts deadline view ends part) :
    Halts deadline view Anyhow part := by
  intro before front last back result after taken past
  obtain ⟨idle, rests, -⟩ := halts before front last back result after taken past
  exact ⟨idle, rests, trivial⟩

theorem Halts.weaken {ends : Except Stop α → Prop} {part : Run α}
    (halts : Halts deadline id ends part) (view : Environment → Environment) :
    Halts deadline view Anyhow part := by
  intro before front last back result after taken past
  obtain ⟨idle, rests, -⟩ := halts before front last back result after taken past
  exact ⟨idle, rests.weaken view, trivial⟩

/-! ## Parts that ask nothing -/

/-- A part without turns. -/
def Silent (part : Run α) : Prop :=
  ∀ before turns result after, Takes part before turns result after → turns = []

theorem silent_of_reaches {part : Run α}
    (quiet : ∀ before asked result after, Reaches part before asked result after → asked = []) :
    Silent part := by
  intro before turns result after taken
  exact List.map_eq_nil_iff.mp (quiet _ _ _ _ taken.reaches)

theorem silent_pure (a : α) : Silent (pure a) := fun _ _ _ _ taken => (takes_pure.mp taken).1

theorem silent_throw (stop : Stop) : Silent (throw stop : Run α) :=
  fun _ _ _ _ taken => (takes_throw.mp taken).1

theorem silent_get : Silent get := fun _ _ _ _ taken => (takes_get.mp taken).1

theorem silent_modify (f : RunState → RunState) : Silent (modify f : Run Unit) :=
  fun _ _ _ _ taken => (takes_modify.mp taken).1

theorem silent_env : Silent env := fun _ _ _ _ taken => (takes_env.mp taken).1

theorem silent_evaluated (value : Except Stop α) : Silent (evaluated value) :=
  fun _ _ _ _ taken => (takes_evaluated.mp taken).1

theorem silent_checked (value : Except Cause α) : Silent (checked value) :=
  fun _ _ _ _ taken => (takes_checked.mp taken).1

/-- The time cannot run out in a part without turns. -/
theorem Silent.halts {part : Run α} (silent : Silent part) (ends : Except Stop α → Prop) :
    Halts deadline view ends part := by
  intro before front last back result after taken _
  have impossible := silent before _ result after taken
  simp at impossible

/-! ## One part after the other -/

theorem Idles.bind {first : Except Stop α → Prop} {ends : Except Stop β → Prop} {part : Run α}
    {next : α → Run β} (idles : Idles deadline view first part)
    (later : ∀ a, first (.ok a) → Idles deadline view ends (next a))
    (stops : ∀ stop, first (.error stop) → ends (.error stop)) :
    Idles deadline view ends (part >>= next) := by
  intro before turns result after taken past
  rcases takes_bind.mp taken with ⟨a, front, middle, back, begun, rest, rfl⟩ | ⟨stop, stopped, rfl⟩
  · obtain ⟨idle, rests, ended⟩ := idles before front _ middle begun fun turn member =>
      past turn (List.mem_append_left _ member)
    obtain ⟨idle', rests', ended'⟩ := later a ended middle back result after rest fun turn member =>
      past turn (List.mem_append_right _ member)
    exact ⟨idleIn_append idle idle', rests.trans rests', ended'⟩
  · obtain ⟨idle, rests, ended⟩ := idles before turns _ after stopped past
    exact ⟨idle, rests, stops stop ended⟩

/-- The time may run out in the first part, which is then followed by one that begins when it is
over, or in the second one. -/
theorem Halts.bind {first : Except Stop α → Prop} {ends : Except Stop β → Prop} {part : Run α}
    {next : α → Run β} (halts : Halts deadline view first part)
    (later : ∀ a, Halts deadline view ends (next a))
    (idles : ∀ a, first (.ok a) → Idles deadline view ends (next a))
    (stops : ∀ stop, first (.error stop) → ends (.error stop)) :
    Halts deadline view ends (part >>= next) := by
  intro before front last back result after taken past
  rcases takes_bind.mp taken with ⟨a, turns, middle, turns', begun, rest, whole⟩ |
    ⟨stop, stopped, rfl⟩
  · obtain ⟨between, rfl, rfl⟩ | ⟨between, rfl, rfl⟩ := append_cons_eq_append whole
    · have overFirst : OverIn deadline (last :: between) := fun turn member =>
        past turn (List.mem_append_left turns' member)
      obtain ⟨idle, rests, ended⟩ := halts before front last between _ middle begun overFirst
      obtain ⟨idle', rests', ended'⟩ :=
        idles a ended middle turns' result after rest fun turn member =>
        past turn (List.mem_cons_of_mem _ (List.mem_append_right _ member))
      exact ⟨idleIn_append idle idle', rests.trans rests', ended'⟩
    · exact later a middle between last back result after rest past
  · obtain ⟨idle, rests, ended⟩ := halts before front last back _ after stopped past
    exact ⟨idle, rests, stops stop ended⟩

/-- A first part without turns. -/
theorem Halts.behind {ends : Except Stop β → Prop} {part : Run α} {next : α → Run β}
    (silent : Silent part) (later : ∀ a, Halts deadline view ends (next a)) :
    Halts deadline view ends (part >>= next) :=
  (silent.halts fun _ => False).bind later (fun _ impossible => impossible.elim) fun _ impossible =>
    impossible.elim

/-- A first part that fails when the time runs out in it. -/
theorem Halts.failing {part : Run α} {next : α → Run β} (halts : Halts deadline view Failed part)
    (later : ∀ a, Halts deadline view Anyhow (next a)) :
    Halts deadline view Anyhow (part >>= next) := by
  refine halts.bind later (fun a failed => ?_) fun _ _ => trivial
  obtain ⟨stop, impossible⟩ := failed
  cases impossible

theorem Idles.failing {part : Run α} {next : α → Run β} (idles : Idles deadline view Failed part) :
    Idles deadline view Failed (part >>= next) := by
  refine idles.bind (fun a failed => ?_) fun stop _ => failed_error stop
  obtain ⟨stop, impossible⟩ := failed
  cases impossible

theorem idles_pure {ends : Except Stop α → Prop} {a : α} (ended : ends (.ok a)) :
    Idles deadline view ends (pure a) := by
  intro before turns result after taken _
  obtain ⟨rfl, rfl, rfl⟩ := takes_pure.mp taken
  exact ⟨List.forall_mem_nil _, .refl view _, ended⟩

theorem idles_evaluated {ends : Except Stop α → Prop} {value : Except Stop α} (ended : ends value) :
    Idles deadline view ends (evaluated value) := by
  intro before turns result after taken _
  obtain ⟨rfl, rfl, rfl⟩ := takes_evaluated.mp taken
  exact ⟨List.forall_mem_nil _, .refl view _, ended⟩

theorem idles_get : Idles deadline view Anyhow get := by
  intro before turns result after taken _
  obtain ⟨rfl, rfl, rfl⟩ := takes_get.mp taken
  exact ⟨List.forall_mem_nil _, .refl view _, trivial⟩

theorem idles_modify {f : RunState → RunState} (rests : ∀ state, Rests view ⟨state, []⟩ (f state)) :
    Idles deadline view Anyhow (modify f : Run Unit) := by
  intro before turns result after taken _
  obtain ⟨rfl, rfl, rfl⟩ := takes_modify.mp taken
  exact ⟨List.forall_mem_nil _, rests before, trivial⟩

/-! ## Questions to the host -/

theorem idles_host {ends : α → Prop} {dialogue : Dialogue α}
    (idles : dialogue.Idles deadline ends) :
    Idles deadline view (fun result => ∃ a, result = .ok a ∧ ends a) (host dialogue) := by
  intro before turns result after taken past
  obtain ⟨a, asked, path, rfl, rfl, rfl⟩ := takes_host.mp taken
  obtain ⟨idle, ended⟩ := idles asked a path fun exchange member =>
    past _ (List.mem_map_of_mem member)
  refine ⟨?_, .refl view _, a, rfl, ended⟩
  intro turn member
  obtain ⟨exchange, listed, rfl⟩ := List.mem_map.mp member
  exact idle exchange listed

theorem halts_host {ends : α → Prop} {dialogue : Dialogue α}
    (halts : dialogue.Halts deadline ends) :
    Halts deadline view (fun result => ∃ a, result = .ok a ∧ ends a) (host dialogue) := by
  intro before front last back result after taken past
  obtain ⟨a, asked, path, whole, rfl, rfl⟩ := takes_host.mp taken
  obtain ⟨front, rest, rfl, rfl, cut⟩ := List.append_eq_map_iff.mp whole
  obtain ⟨last, back, rfl, rfl, rfl⟩ := List.map_eq_cons_iff.mp cut
  obtain ⟨idle, ended⟩ := halts front last back a path fun exchange member =>
    past _ (List.mem_map_of_mem member)
  refine ⟨?_, .refl view _, a, rfl, ended⟩
  intro turn member
  obtain ⟨exchange, listed, rfl⟩ := List.mem_map.mp member
  exact idle exchange listed

theorem Halts.host_bind {first : α → Prop} {ends : Except Stop β → Prop} {dialogue : Dialogue α}
    {next : α → Run β} (halts : dialogue.Halts deadline first)
    (later : ∀ a, Halts deadline view ends (next a))
    (idles : ∀ a, first a → Idles deadline view ends (next a)) :
    Halts deadline view ends (host dialogue >>= next) := by
  refine (halts_host halts).bind later (fun a ended => ?_) fun stop ended => ?_
  · obtain ⟨b, same, ended⟩ := ended
    obtain rfl := Except.ok.inj same
    exact idles a ended
  · obtain ⟨_, impossible, _⟩ := ended
    cases impossible

theorem Idles.host_bind {first : α → Prop} {ends : Except Stop β → Prop} {dialogue : Dialogue α}
    {next : α → Run β} (idles : dialogue.Idles deadline first)
    (later : ∀ a, first a → Idles deadline view ends (next a)) :
    Idles deadline view ends (host dialogue >>= next) := by
  refine (idles_host idles).bind (fun a ended => ?_) fun stop ended => ?_
  · obtain ⟨b, same, ended⟩ := ended
    obtain rfl := Except.ok.inj same
    exact later a ended
  · obtain ⟨_, impossible, _⟩ := ended
    cases impossible

theorem halts_hosted {dialogue : Dialogue (Except Fault α)}
    (halts : dialogue.Halts deadline Failed) :
    Halts deadline view Failed (hosted dialogue) := by
  unfold hosted
  refine .host_bind halts (fun given => ?_) fun given failed => ?_
  · split
    · exact (silent_pure _).halts _
    · exact (silent_throw _).halts _
  · obtain ⟨fault, rfl⟩ := failed
    exact idles_evaluated (failed_error (Stop.fault fault))

/-- The outcome of a part, kept, and what is done with it. -/
theorem Halts.attempt_bind {ends : Except Stop α → Prop} {ended : Except Stop β → Prop}
    {part : Run α} {next : Except Stop α → Run β} (halts : Halts deadline view ends part)
    (later : ∀ kept, Halts deadline view ended (next kept))
    (idles : ∀ kept, Idles deadline view ended (next kept)) :
    Halts deadline view ended (attempt part >>= next) := by
  have kept : Halts deadline view (fun result => ∃ kept, result = .ok kept) (attempt part) := by
    intro before front last back result after taken past
    obtain ⟨kept, tried, rfl⟩ := takes_attempt.mp taken
    obtain ⟨idle, rests, -⟩ := halts before front last back kept after tried past
    exact ⟨idle, rests, kept, rfl⟩
  refine kept.bind later (fun outcome _ => idles outcome) fun stop impossible => ?_
  obtain ⟨_, impossible⟩ := impossible
  cases impossible

/-- A part whose variable has its earlier binding again when it ends: what the part does to that
variable is not seen from outside. -/
theorem Halts.restoring {part : Run α} {name : String}
    (halts : ∀ saved : Environment.Saved, saved.name = Environment.variableName name →
      Halts deadline (Environment.restore · saved) Anyhow part) :
    Halts deadline id Anyhow (restoring name part) := by
  intro before front last back result after taken past
  obtain ⟨inner, middle, performed, whole, rfl⟩ := takes_restoring.mp taken
  obtain ⟨front, rest, rfl, rfl, split⟩ := List.append_eq_map_iff.mp whole
  obtain ⟨last, back, rfl, rfl, rfl⟩ := List.map_eq_cons_iff.mp split
  generalize saving : before.env.save name = saved at past
  have named : saved.name = Environment.variableName name := saving ▸ rfl
  obtain ⟨idle, rests, -⟩ :=
    halts saved named before front last back result middle performed fun turn member =>
    past (turn.within (Standing.inside saved)) (List.mem_map_of_mem member)
  refine ⟨?_, ⟨rests.steps, rests.output, rests.transcript, ?_⟩, trivial⟩
  · intro turn member
    obtain ⟨inside, listed, rfl⟩ := List.mem_map.mp member
    exact idle inside listed
  · have restored := rests.env
    simpa [Standing.restored, Turn.within, Standing.inside] using restored

/-! ## Records -/

/-- The run does not go on to its next statement when the time is over. -/
theorem idles_checkpoint : Idles deadline view Failed (checkpoint deadline) := by
  refine .host_bind Dialogue.idles_observe fun moment past => ?_
  obtain ⟨cause, stopped⟩ := checkMoment_of_over past .betweenStatements
  rw [stopped]
  exact idles_evaluated (failed_error (Stop.fault (.of cause)))

theorem halts_checkpoint : Halts deadline view Failed (checkpoint deadline) := by
  refine .host_bind (Dialogue.halts_query .observe) (fun moment => (silent_checked _).halts _)
    fun moment past => ?_
  obtain ⟨cause, stopped⟩ := checkMoment_of_over past .betweenStatements
  rw [stopped]
  exact idles_evaluated (failed_error (Stop.fault (.of cause)))

theorem silent_begin (kind : StepKind) (p : Position) : Silent (begin kind p) := by
  refine silent_of_reaches fun before asked result after reached => ?_
  simp only [begin, reaches_get_bind, reaches_modify_bind, reaches_pure] at reached
  exact reached.1

private theorem silent_heard (told : Bool) :
    Silent (if told then pure () else tell .listenerRaised) := by
  split
  · exact silent_pure ()
  · exact silent_modify _

private theorem idles_heard (told : Bool) :
    Idles deadline view Anyhow (if told then pure () else tell .listenerRaised) := by
  split
  · exact idles_pure trivial
  · exact idles_modify fun state => .told view state _

/-- The end of a statement is told to the host whether or not there is time. -/
theorem idles_finish (index : Nat) (outcome : StepOutcome) :
    Idles deadline view Anyhow (finish index outcome) := by
  unfold finish
  refine (idles_modify fun state => .finished view state index outcome).bind (fun _ _ => ?_)
    fun _ _ => trivial
  refine idles_get.bind (fun state _ => ?_) fun _ _ => trivial
  split
  · exact idles_pure trivial
  · refine (idles_modify fun state => .told view state _).bind (fun _ _ => ?_) fun _ _ => trivial
    exact .host_bind (Dialogue.idles_stepEnded _) fun told _ => idles_heard told

theorem halts_finish (index : Nat) (outcome : StepOutcome) :
    Halts deadline view Anyhow (finish index outcome) := by
  unfold finish
  refine .behind (silent_modify _) fun _ => .behind silent_get fun state => ?_
  split
  · exact (silent_pure ()).halts _
  · refine .behind (silent_modify _) fun _ => ?_
    exact .host_bind (Dialogue.halts_query _) (fun told => (silent_heard told).halts _)
      fun told _ => idles_heard told

/-- A statement with its record does not begin when the time is over. -/
theorem idles_recorded (kind : StepKind) (p : Position) (statement : Nat → Run Unit) :
    Idles deadline view Failed (recorded deadline kind p statement) :=
  idles_checkpoint.failing

theorem Halts.recorded {statement : Nat → Run Unit}
    (inner : ∀ index, Halts deadline view Anyhow (statement index)) (kind : StepKind)
    (p : Position) : Halts deadline view Anyhow (recorded deadline kind p statement) := by
  unfold Run.recorded
  refine halts_checkpoint.failing fun _ => .behind (silent_begin kind p) fun index => ?_
  refine .attempt_bind (inner index) (fun kept => ?_) fun kept => ?_
  · refine (halts_finish index _).bind (fun _ => (silent_evaluated _).halts _) (fun _ _ => ?_)
      fun _ _ => trivial
    exact idles_evaluated trivial
  · exact (idles_finish index _).bind (fun _ _ => idles_evaluated trivial) fun _ _ => trivial

/-! ## Statements -/

section

variable {setup : Setup}

/-- A tool's call fails when the time runs out in it, so nothing is bound to its answer. -/
theorem halts_callTool (call : ToolCall) :
    Halts setup.deadline view Failed (callTool setup call) := by
  unfold callTool
  refine .behind (silent_modify _) fun _ =>
    .host_bind (ToolCall.halts_perform call _) (fun ended => ?_) fun ended failed => ?_
  · refine .behind (silent_modify _) fun _ => ?_
    split
    · exact (silent_pure _).halts _
    · exact (silent_throw _).halts _
  · refine (idles_modify fun state => .told view state _).bind (fun _ _ => ?_) fun stop _ =>
      failed_error stop
    obtain ⟨fault, same⟩ := failed
    rw [same]
    exact idles_evaluated (failed_error (Stop.fault fault))

theorem halts_say (expr : Expr) (index : Nat) :
    Halts setup.deadline view Anyhow (execSay setup expr index) := by
  unfold execSay
  refine .behind silent_env fun env => .behind (silent_evaluated _) fun text =>
    .behind (silent_modify _) fun _ => ?_
  exact (silent_modify _).halts _

theorem halts_ask (prompt : Expr) (options : List (String × Expr)) (index : Nat) :
    Halts setup.deadline view Anyhow (execAsk setup prompt options index) := by
  unfold execAsk
  refine .behind silent_env fun env => .behind (silent_evaluated _) fun text =>
    .behind (silent_evaluated _) fun values => ?_
  refine .behind (silent_checked _) fun named => .behind (silent_modify _) fun _ =>
    .behind (silent_modify _) fun _ => ?_
  exact (halts_callTool _).failing fun result => (silent_modify _).halts _

theorem halts_set (name : String) (expr : Expr) (index : Nat) :
    Halts setup.deadline view Anyhow (execSet setup name expr index) := by
  unfold execSet
  refine .behind silent_env fun env => .behind (silent_evaluated _) fun value =>
    .behind (silent_modify _) fun _ => ?_
  refine .behind (silent_modify _) fun _ => ?_
  split
  · exact (silent_pure ()).halts _
  · exact (halts_hosted (MemoryAccess.halts_write _)).anyhow

theorem halts_call (name : String) (args : List (String × Expr)) (bindAs : Option String)
    (index : Nat) :
    Halts setup.deadline view Anyhow (execCall setup name args bindAs index) := by
  unfold execCall
  refine .behind (silent_modify _) fun _ => .behind (silent_checked _) fun tool =>
    .behind silent_env fun env => ?_
  refine .behind (silent_evaluated _) fun values => .behind (silent_modify _) fun _ =>
    .behind (silent_modify _) fun _ => ?_
  refine (halts_callTool _).failing fun result => ?_
  split
  · exact (silent_pure ()).halts _
  · exact (silent_modify _).halts _

theorem halts_remember (key value : Expr) (mode : RememberMode) (index : Nat) :
    Halts setup.deadline view Anyhow (execRemember setup key value mode index) := by
  unfold execRemember
  refine .behind silent_env fun env => .behind (silent_evaluated _) fun keyValue =>
    .behind (silent_checked _) fun text => ?_
  refine .behind (silent_evaluated _) fun item => .behind (silent_modify _) fun _ => ?_
  cases mode with
  | set => exact (halts_hosted (MemoryAccess.halts_write _)).anyhow
  | append => exact (halts_hosted (MemoryAccess.halts_write _)).anyhow

theorem halts_recollect (key : Expr) (bindAs : String) (index : Nat) :
    Halts setup.deadline view Anyhow (execRecollect setup key bindAs index) := by
  unfold execRecollect
  refine .behind silent_env fun env => .behind (silent_evaluated _) fun keyValue =>
    .behind (silent_checked _) fun text => ?_
  refine .host_bind (MemoryAccess.halts_read text) (fun given => ?_) fun given failed => ?_
  · exact .behind (silent_evaluated _) fun value => .behind (silent_modify _) fun _ =>
      (silent_modify _).halts _
  · exact (idles_evaluated failed).failing.anyhow

/-- A statement does not begin when the time is over. -/
theorem idles_exec (stmt : Stmt) : Idles setup.deadline view Failed (exec setup stmt) := by
  cases stmt <;> exact idles_recorded _ _ _

theorem idles_execAll (body : List Stmt) :
    Idles setup.deadline view Anyhow (execAll setup body) := by
  cases body with
  | nil => exact idles_pure trivial
  | cons stmt rest => exact (idles_exec stmt).failing.anyhow

/-- When the time runs out in one round of a loop, the rounds behind it bind the item of the loop
and do nothing else. -/
theorem halts_rounds {saved : Environment.Saved} {item : String} {body : List Stmt}
    (named : saved.name = Environment.variableName item)
    (inner : Halts setup.deadline id Anyhow (execAll setup body)) (items : List Value) :
    Halts setup.deadline (Environment.restore · saved) Anyhow
      (forEach (fun value => do bind item value; execAll setup body) items) := by
  have idles (values : List Value) : Idles setup.deadline (Environment.restore · saved) Anyhow
      (forEach (fun value => do bind item value; execAll setup body) values) := by
    induction values with
    | nil => exact idles_pure trivial
    | cons value rest ih =>
      have round : Idles setup.deadline (Environment.restore · saved) Anyhow
          (do bind item value; execAll setup body) := by
        refine (idles_modify fun state => ?_).bind (fun _ _ => idles_execAll body)
          fun _ _ => trivial
        exact ⟨rfl, rfl, rfl, Environment.restore_bind state.env named value⟩
      exact round.bind (fun _ _ => ih) fun _ _ => trivial
  induction items with
  | nil => exact (silent_pure ()).halts _
  | cons value rest ih =>
    have round : Halts setup.deadline (Environment.restore · saved) Anyhow
      (do bind item value; execAll setup body) :=
      .behind (silent_modify _) fun _ => inner.weaken _
    exact round.bind (fun _ => ih) (fun _ _ => idles rest) fun _ _ => trivial

mutual

/-- When the time runs out in a statement, nothing more comes of it. -/
theorem halts_exec (stmt : Stmt) : Halts setup.deadline id Anyhow (exec setup stmt) := by
  match stmt with
  | .say expr p => exact .recorded (halts_say expr) _ _
  | .ask prompt options p => exact .recorded (halts_ask prompt options) _ _
  | .set name expr p => exact .recorded (halts_set name expr) _ _
  | .call tool args bindAs p => exact .recorded (halts_call tool args bindAs) _ _
  | .branch condition thenBody elseBody p =>
    rw [exec]
    refine .recorded (fun index => ?_) _ _
    refine .behind silent_env fun env => .behind (silent_evaluated _) fun holds =>
      .behind (silent_modify _) fun _ => ?_
    split
    · exact halts_execAll thenBody
    · exact halts_execElse elseBody
  | .loop item collection body p =>
    rw [exec]
    refine .recorded (fun index => ?_) _ _
    refine .behind silent_env fun env => .behind (silent_evaluated _) fun value =>
      .behind (silent_checked _) fun items => ?_
    exact .behind (silent_modify _) fun _ => .restoring fun saved named =>
      halts_rounds named (halts_execAll body) items
  | .remember key value mode p => exact .recorded (halts_remember key value mode) _ _
  | .recollect key bindAs p => exact .recorded (halts_recollect key bindAs) _ _

theorem halts_execAll (body : List Stmt) : Halts setup.deadline id Anyhow (execAll setup body) := by
  match body with
  | [] =>
    rw [execAll]
    exact (silent_pure ()).halts _
  | stmt :: rest =>
    rw [execAll]
    exact (halts_exec stmt).bind (fun _ => halts_execAll rest) (fun _ _ => idles_execAll rest)
      fun _ _ => trivial

theorem halts_execElse (elseBody : Option (List Stmt)) :
    Halts setup.deadline id Anyhow (execElse setup elseBody) := by
  match elseBody with
  | none =>
    rw [execElse]
    exact (silent_pure ()).halts _
  | some body =>
    rw [execElse]
    exact halts_execAll body

end

end

end Run

end BotScript
