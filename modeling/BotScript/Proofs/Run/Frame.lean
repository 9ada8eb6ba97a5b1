import BotScript.Host.Scripted
import BotScript.Proofs.Evaluation.Bound
import BotScript.Proofs.Run.Overtime

/-! What a block leaves alone. The variables that a block may change are those that its statements
bind, except that a loop puts the binding of its item back; every other variable has after the block
the binding that it had before, however the block ends and wherever it is left. -/

namespace BotScript

open Environment (variableName)

namespace Stmt

mutual

/-- The variables that a statement may leave with another binding. -/
def netTargets : Stmt → List String
  | ask .. => [variableName resultName]
  | set name _ _ => [variableName name]
  | call _ _ bindAs _ => bindAs.toList.map variableName
  | recollect _ bindAs _ => [variableName bindAs]
  | branch _ thenBody elseBody _ => netTargetsAll thenBody ++ netTargetsElse elseBody
  | loop item _ body _ => (netTargetsAll body).filter (· ≠ variableName item)
  | say .. | remember .. => []

def netTargetsAll : List Stmt → List String
  | [] => []
  | stmt :: rest => netTargets stmt ++ netTargetsAll rest

def netTargetsElse : Option (List Stmt) → List String
  | none => []
  | some body => netTargetsAll body

end

end Stmt

namespace Standing

theorem restored_inside (standing : Standing) (saved : Environment.Saved) :
    (standing.inside saved).restored = standing.restored.restore saved := by
  unfold restored inside
  rw [List.foldl_append]
  rfl

end Standing

namespace Run

variable {α β : Type} {name : String}

/-- A part that leaves the binding of a variable alone. It has it when the part ends, and wherever
the part is left: the open loops then put back what they keep. -/
def Keeps (name : String) (part : Run α) : Prop :=
  ∀ before turns result after, Takes part before turns result after →
    after.env.get? name = before.env.get? name ∧
      ∀ turn ∈ turns, turn.standing.restored.get? name = before.env.get? name

/-- A part without turns that leaves the variables as they are. -/
private theorem keeps_settled {part : Run α}
    (settled : ∀ before turns result after, Takes part before turns result after → turns = [] ∧
      after.env = before.env) :
    Keeps name part := by
  intro before turns result after taken
  obtain ⟨rfl, same⟩ := settled before turns result after taken
  exact ⟨congrArg (·.get? name) same, List.forall_mem_nil _⟩

theorem keeps_pure (a : α) : Keeps name (pure a) := by
  refine keeps_settled fun before turns result after taken => ?_
  obtain ⟨rfl, -, rfl⟩ := takes_pure.mp taken
  exact ⟨rfl, rfl⟩

theorem keeps_throw (stop : Stop) : Keeps name (throw stop : Run α) := by
  refine keeps_settled fun before turns result after taken => ?_
  obtain ⟨rfl, -, rfl⟩ := takes_throw.mp taken
  exact ⟨rfl, rfl⟩

theorem keeps_get : Keeps name get := by
  refine keeps_settled fun before turns result after taken => ?_
  obtain ⟨rfl, -, rfl⟩ := takes_get.mp taken
  exact ⟨rfl, rfl⟩

theorem keeps_env : Keeps name env := by
  refine keeps_settled fun before turns result after taken => ?_
  obtain ⟨rfl, -, rfl⟩ := takes_env.mp taken
  exact ⟨rfl, rfl⟩

theorem keeps_evaluated (value : Except Stop α) : Keeps name (evaluated value) := by
  refine keeps_settled fun before turns result after taken => ?_
  obtain ⟨rfl, -, rfl⟩ := takes_evaluated.mp taken
  exact ⟨rfl, rfl⟩

theorem keeps_checked (value : Except Cause α) : Keeps name (checked value) := by
  refine keeps_settled fun before turns result after taken => ?_
  obtain ⟨rfl, -, rfl⟩ := takes_checked.mp taken
  exact ⟨rfl, rfl⟩

/-- A change of anything but the variables. -/
theorem keeps_modify {f : RunState → RunState} (same : ∀ state, (f state).env = state.env) :
    Keeps name (modify f : Run Unit) := by
  refine keeps_settled fun before turns result after taken => ?_
  obtain ⟨rfl, -, rfl⟩ := takes_modify.mp taken
  exact ⟨rfl, same before⟩

/-- Another variable is bound. -/
theorem keeps_bind {target : String} (apart : variableName name ≠ variableName target)
    (value : Value) :
    Keeps name (bind target value) := by
  intro before turns result after taken
  obtain ⟨rfl, -, rfl⟩ := takes_modify.mp taken
  refine ⟨?_, List.forall_mem_nil _⟩
  rw [Environment.get?_bind, if_neg apart.symm]

theorem keeps_host (dialogue : Dialogue α) : Keeps name (host dialogue) := by
  intro before turns result after taken
  obtain ⟨a, asked, -, rfl, -, rfl⟩ := takes_host.mp taken
  exact ⟨rfl, List.forall_mem_map.mpr fun _ _ => rfl⟩

theorem keeps_hosted (dialogue : Dialogue (Except Fault α)) : Keeps name (hosted dialogue) := by
  intro before turns result after taken
  obtain ⟨given, asked, -, rfl, -, rfl⟩ := takes_hosted.mp taken
  exact ⟨rfl, List.forall_mem_map.mpr fun _ _ => rfl⟩

namespace Keeps

/-- One part after the other. -/
theorem behind {part : Run α} {next : α → Run β} (first : Keeps name part)
    (later : ∀ a, Keeps name (next a)) :
    Keeps name (part >>= next) := by
  intro before turns result after taken
  rcases takes_bind.mp taken with ⟨a, front, middle, back, begun, ended, rfl⟩ | ⟨stop, stopped, -⟩
  · obtain ⟨between, inFront⟩ := first _ _ _ _ begun
    obtain ⟨last, inBack⟩ := later a _ _ _ _ ended
    refine ⟨last.trans between, List.forall_mem_append.mpr ⟨inFront, fun turn member => ?_⟩⟩
    exact (inBack turn member).trans between
  · exact first _ _ _ _ stopped

theorem modify_bind {f : RunState → RunState} {next : PUnit → Run α}
    (same : ∀ state, (f state).env = state.env) (later : Keeps name (next ⟨⟩)) :
    Keeps name (modify f >>= next) :=
  (keeps_modify same).behind fun _ => later

theorem attempt {part : Run α} (inner : Keeps name part) : Keeps name (attempt part) := by
  intro before turns result after taken
  obtain ⟨kept, tried, -⟩ := takes_attempt.mp taken
  exact inner _ _ _ _ tried

/-- The item of a loop has its earlier binding again, whatever the loop does with it. -/
theorem restoring {item : String} {part : Run α}
    (inner : variableName name ≠ variableName item → Keeps name part) :
    Keeps name (restoring item part) := by
  intro before turns result after taken
  obtain ⟨within, middle, inside, rfl, rfl⟩ := takes_restoring.mp taken
  by_cases same : variableName item = variableName name
  · have back : ∀ env : Environment,
        (env.restore (before.env.save item)).get? name = before.env.get? name := by
      intro env
      rw [Environment.get?_restore, if_pos same, Environment.get?, same, Environment.get?]
    refine ⟨back middle.env, List.forall_mem_map.mpr fun turn _ => ?_⟩
    exact (congrArg (·.get? name) (Standing.restored_inside _ _)).trans (back _)
  · obtain ⟨last, meanwhile⟩ := inner (Ne.symm same) _ _ _ _ inside
    have back : ∀ env : Environment,
        (env.restore (before.env.save item)).get? name = env.get? name := by
      intro env
      rw [Environment.get?_restore, if_neg same]
    refine ⟨(back middle.env).trans last, List.forall_mem_map.mpr fun turn member => ?_⟩
    rw [Turn.within, Standing.restored_inside, back]
    exact meanwhile turn member

theorem forEach {part : β → Run Unit} (each : ∀ item, Keeps name (part item)) (items : List β) :
    Keeps name (forEach part items) := by
  induction items with
  | nil => exact keeps_pure ()
  | cons item rest ih => exact (each item).behind fun _ => ih

end Keeps

/-! ## Statements -/

theorem keeps_checkpoint (deadline : Option Deadline) : Keeps name (checkpoint deadline) := by
  unfold checkpoint
  exact (keeps_host _).behind fun _ => keeps_checked _

theorem keeps_begin (kind : StepKind) (p : Position) : Keeps name (begin kind p) := by
  unfold begin
  exact keeps_get.behind fun _ => .modify_bind (fun _ => rfl) (keeps_pure _)

theorem keeps_finish (index : Nat) (outcome : StepOutcome) : Keeps name (finish index outcome) := by
  unfold finish
  refine .modify_bind (fun _ => rfl) (keeps_get.behind fun state => ?_)
  split
  · exact keeps_pure ()
  · refine .modify_bind (fun _ => rfl) ((keeps_host _).behind fun told => ?_)
    split
    · exact keeps_pure ()
    · exact keeps_modify fun _ => rfl

theorem Keeps.recorded {statement : Nat → Run Unit} (inner : ∀ index, Keeps name (statement index))
    (deadline : Option Deadline) (kind : StepKind) (p : Position) :
    Keeps name (recorded deadline kind p statement) := by
  unfold Run.recorded
  refine (keeps_checkpoint deadline).behind fun _ => (keeps_begin kind p).behind fun index => ?_
  exact (inner index).attempt.behind fun result => (keeps_finish index _).behind fun _ =>
    keeps_evaluated _

section

variable {setup : Setup}

theorem keeps_callTool (call : ToolCall) : Keeps name (callTool setup call) := by
  unfold callTool
  refine .modify_bind (fun _ => rfl)
    ((keeps_host _).behind fun ended => .modify_bind (fun _ => rfl) ?_)
  split
  · exact keeps_pure _
  · exact keeps_throw _

theorem keeps_say (expr : Expr) (index : Nat) : Keeps name (execSay setup expr index) := by
  unfold execSay
  exact keeps_env.behind fun env => (keeps_evaluated _).behind fun text =>
    .modify_bind (fun _ => rfl) (keeps_modify fun _ => rfl)

theorem keeps_ask (apart : variableName name ≠ variableName Stmt.resultName) (prompt : Expr)
    (options : List (String × Expr)) (index : Nat) :
    Keeps name (execAsk setup prompt options index) := by
  unfold execAsk
  refine keeps_env.behind fun env => (keeps_evaluated _).behind fun text =>
    (keeps_evaluated _).behind fun values => ?_
  refine (keeps_checked _).behind fun assistant => .modify_bind (fun _ => rfl) ?_
  exact .modify_bind (fun _ => rfl) ((keeps_callTool _).behind fun result => keeps_bind apart _)

theorem keeps_set {target : String} (apart : variableName name ≠ variableName target) (expr : Expr)
    (index : Nat) :
    Keeps name (execSet setup target expr index) := by
  unfold execSet
  refine keeps_env.behind fun env => (keeps_evaluated _).behind fun value =>
    (keeps_bind apart value).behind fun _ => ?_
  refine .modify_bind (fun _ => rfl) ?_
  split
  · exact keeps_pure ()
  · exact keeps_hosted _

theorem keeps_call {bindAs : Option String}
    (apart : ∀ target ∈ bindAs, variableName name ≠ variableName target) (tool : String)
    (args : List (String × Expr)) (index : Nat) :
    Keeps name (execCall setup tool args bindAs index) := by
  unfold execCall
  refine .modify_bind (fun _ => rfl)
    ((keeps_checked _).behind fun found => keeps_env.behind fun env => ?_)
  refine (keeps_evaluated _).behind fun values => .modify_bind (fun _ => rfl) ?_
  refine .modify_bind (fun _ => rfl) ((keeps_callTool _).behind fun result => ?_)
  split
  · exact keeps_pure ()
  · rename_i target
    exact keeps_bind (apart target rfl) _

theorem keeps_remember (key value : Expr) (mode : RememberMode) (index : Nat) :
    Keeps name (execRemember setup key value mode index) := by
  unfold execRemember
  refine keeps_env.behind fun env => (keeps_evaluated _).behind fun key =>
    (keeps_checked _).behind fun text => ?_
  refine (keeps_evaluated _).behind fun value => .modify_bind (fun _ => rfl) ?_
  split
  · exact keeps_hosted _
  · exact keeps_hosted _

theorem keeps_recollect {target : String} (apart : variableName name ≠ variableName target)
    (key : Expr) (index : Nat) : Keeps name (execRecollect setup key target index) := by
  unfold execRecollect
  refine keeps_env.behind fun env => (keeps_evaluated _).behind fun key =>
    (keeps_checked _).behind fun text => ?_
  refine (keeps_host _).behind fun given => (keeps_evaluated _).behind fun value => ?_
  exact (keeps_bind apart value).behind fun _ => keeps_modify fun _ => rfl

mutual

theorem keeps_exec (stmt : Stmt) (aside : variableName name ∉ stmt.netTargets) :
    Keeps name (exec setup stmt) := by
  match stmt with
  | .say expr p =>
    rw [exec]
    exact .recorded (keeps_say expr) _ _ _
  | .ask prompt options p =>
    rw [exec]
    exact .recorded (keeps_ask (List.ne_of_not_mem_cons aside) prompt options) _ _ _
  | .set target expr p =>
    rw [exec]
    exact .recorded (keeps_set (List.ne_of_not_mem_cons aside) expr) _ _ _
  | .call tool args bindAs p =>
    rw [exec]
    refine .recorded (keeps_call (fun target among same => ?_) tool args) _ _ _
    exact aside (List.mem_map.mpr ⟨target, Option.mem_toList.mpr among, same.symm⟩)
  | .branch condition thenBody elseBody p =>
    rw [exec]
    rw [Stmt.netTargets, List.mem_append, not_or] at aside
    refine .recorded (fun index => keeps_env.behind fun env =>
      (keeps_evaluated _).behind fun holds => ?_) _ _ _
    refine .modify_bind (fun _ => rfl) ?_
    split
    · exact keeps_execAll thenBody aside.1
    · exact keeps_execElse elseBody aside.2
  | .loop item collection body p =>
    rw [exec]
    rw [Stmt.netTargets, List.mem_filter, decide_eq_true_eq] at aside
    refine .recorded (fun index => keeps_env.behind fun env =>
      (keeps_evaluated _).behind fun given => ?_) _ _ _
    refine (keeps_checked _).behind fun items =>
      .modify_bind (fun _ => rfl) (.restoring fun apart => ?_)
    refine .forEach (fun value => (keeps_bind apart value).behind fun _ => ?_) items
    exact keeps_execAll body fun among => aside ⟨among, apart⟩
  | .remember key value mode p =>
    rw [exec]
    exact .recorded (keeps_remember key value mode) _ _ _
  | .recollect key target p =>
    rw [exec]
    exact .recorded (keeps_recollect (List.ne_of_not_mem_cons aside) key) _ _ _

theorem keeps_execAll (body : List Stmt) (aside : variableName name ∉ Stmt.netTargetsAll body) :
    Keeps name (execAll setup body) := by
  match body with
  | [] =>
    rw [execAll]
    exact keeps_pure ()
  | stmt :: rest =>
    rw [execAll]
    rw [Stmt.netTargetsAll, List.mem_append, not_or] at aside
    exact (keeps_exec stmt aside.1).behind fun _ => keeps_execAll rest aside.2

theorem keeps_execElse (body : Option (List Stmt))
    (aside : variableName name ∉ Stmt.netTargetsElse body) :
    Keeps name (execElse setup body) := by
  match body with
  | none =>
    rw [execElse]
    exact keeps_pure ()
  | some body =>
    rw [execElse]
    exact keeps_execAll body aside

end

/-- A variable that is no net target of a block has after the block the binding that it had before,
or none when it had none: whatever the host does, the block may end, fail, or be left at any of its
questions to the host. -/
theorem execAll_frames (setup : Setup) (body : List Stmt) (name : String)
    (aside : variableName name ∉ Stmt.netTargetsAll body) {before after : RunState}
    {turns : List (Turn Standing)} {result : Except Stop Unit}
    (taken : Takes (execAll setup body) before turns result after) :
    after.env.get? name = before.env.get? name ∧
      ∀ turn ∈ turns, turn.standing.restored.get? name = before.env.get? name :=
  keeps_execAll body aside before turns result after taken

end

/-- Two loops over one variable, in which it is set as well; behind the inner loop nothing can be
said. -/
def nestedLoops : List Stmt :=
  [.loop "x" (.reference "xs" ⟨1, 1⟩)
    [.loop "x" (.reference "xs" ⟨2, 1⟩)
      [.set "y" (.reference "x" ⟨3, 1⟩) ⟨3, 1⟩,
        .set "x" (.literal (.text "inside") ⟨4, 1⟩) ⟨4, 1⟩] ⟨2, 1⟩,
      .say (.reference "unknown" ⟨5, 1⟩) ⟨5, 1⟩] ⟨1, 1⟩]

def nestedLoopsStart : RunState :=
  .initial ⟨[("x", .text "outside"), ("xs", .array [.integer 1, .integer 2])]⟩

def nestedLoopsSetup : Setup where
  settings := .defaults
  redaction := ⟨true, true⟩
  metadata := .anonymous ""
  catalogue := ⟨[]⟩
  slots := []
  deadline := none
  connected := false

theorem nestedLoops_frames :
    variableName "$x" ∉ Stmt.netTargetsAll nestedLoops ∧
      ∃ turns result after,
        Takes (execAll nestedLoopsSetup nestedLoops) nestedLoopsStart turns result after ∧
        result.isOk = false ∧ after.env.names = ["x", "xs", "y"] ∧ turns.length = 14 ∧
        after.env.get? "$x" = nestedLoopsStart.env.get? "$x" ∧
        ∀ turn ∈ turns, turn.standing.restored.get? "$x" = nestedLoopsStart.env.get? "$x" := by
  have aside : variableName "$x" ∉ Stmt.netTargetsAll nestedLoops := by decide
  have path := Narrative.run_path World.host
    ((execAll nestedLoopsSetup nestedLoops).narrate nestedLoopsStart) (.bare [])
  obtain ⟨back, meanwhile⟩ := execAll_frames nestedLoopsSetup nestedLoops "$x" aside path
  refine ⟨aside, _, _, _, path, ?_, ?_, ?_, back, meanwhile⟩
  · decide +kernel
  · decide +kernel
  · decide +kernel

end Run

end BotScript
