import BotScript.Proofs.Alike.Runs
import BotScript.Proofs.Alike.Sight
import BotScript.Run.Statement

/-! Statements that look the same go alike. -/

namespace BotScript

variable {slack : Slack}

namespace Expr

open Stop

variable {expr other : Expr}

theorem evaluate_alike (look : expr.seen slack.sight = other.seen slack.sight) (env : Environment) :
    EndAlike slack Eq (expr.evaluate env) (other.evaluate env) := by
  unfold evaluate
  rw [eval_of_seen look]
  cases other.eval env with
  | ok value => exact .ok rfl
  | error trouble => exact .error (trouble.locate_alike (sight_of_seen look))

theorem render_alike (look : expr.seen slack.sight = other.seen slack.sight) (env : Environment) :
    EndAlike slack Eq (expr.render env) (other.render env) :=
  (evaluate_alike look env).bind fun _ _ same => .ok (congrArg Value.shown same)

theorem condition_alike (look : expr.seen slack.sight = other.seen slack.sight) (env : Environment)
    (context : String) :
    EndAlike slack Eq (expr.condition env context) (other.condition env context) := by
  refine (evaluate_alike look env).bind fun value _ same => ?_
  subst same
  cases value.asBoolean context with
  | ok holds => exact .ok rfl
  | error cause => exact .error (Trouble.locate_alike (.cause cause) (sight_of_seen look))

theorem evaluateEntries_alike {entries others : List (String × Expr)}
    (look : seenEntries slack.sight entries = seenEntries slack.sight others) (env : Environment) :
    EndAlike slack Eq (evaluateEntries env entries) (evaluateEntries env others) := by
  induction entries generalizing others with
  | nil =>
    obtain rfl := List.map_eq_nil_iff.mp look.symm
    exact .refl _
  | cons entry rest ih =>
    obtain ⟨key, expr⟩ := entry
    cases others with
    | nil => cases look
    | cons other others =>
      obtain ⟨key', expr'⟩ := other
      obtain ⟨first, later⟩ := List.cons.inj look
      obtain ⟨rfl, look⟩ := Prod.mk.inj first
      refine (evaluate_alike look env).bind fun value _ same => ?_
      subst same
      refine (ih later).bind fun values _ same => ?_
      subst same
      exact .ok rfl

end Expr

namespace Run

variable {setup other : Setup}

theorem callTool_alike (setups : setup.Alike slack other) (call : ToolCall) :
    Alike slack Eq (callTool setup call) (callTool other call) := by
  unfold callTool
  rw [setups.settings]
  refine (Alike.tell _ _).andThen fun _ =>
    (Alike.host (call.perform_alike setups.paced _)).andThen fun ended => ?_
  refine (Alike.tell _ _).andThen fun _ => ?_
  cases ended.result with
  | ok result => exact .pure rfl
  | error fault => exact .throw (.refl _)

theorem execSay_alike (setups : setup.Alike slack other) {expr expr' : Expr}
    (look : expr.seen slack.sight = expr'.seen slack.sight) (index : Nat) :
    Alike slack Eq (execSay setup expr index) (execSay other expr' index) := by
  unfold execSay
  rw [setups.redaction]
  exact Alike.env.andThen fun env =>
    (Alike.evaluated (Expr.render_alike look env)).andThen fun text =>
    (Alike.say text).andThen fun _ => summarize_alike index _

theorem assistant_same (setups : setup.Alike slack other) : assistant setup = assistant other := by
  unfold assistant
  rw [setups.settings, setups.catalogue]

theorem modelOf_same (setups : setup.Alike slack other) : modelOf setup = modelOf other := by
  funext options
  unfold modelOf
  rw [setups.settings]

theorem promptArgs_same (setups : setup.Alike slack other) :
    promptArgs setup = promptArgs other := by
  funext prompt options
  unfold promptArgs
  rw [modelOf_same setups, setups.systemPrompt]

theorem execAsk_alike (setups : setup.Alike slack other) {prompt prompt' : Expr}
    {options options' : List (String × Expr)}
    (look : prompt.seen slack.sight = prompt'.seen slack.sight)
    (looks : Expr.seenEntries slack.sight options = Expr.seenEntries slack.sight options')
    (index : Nat) :
    Alike slack Eq (execAsk setup prompt options index) (execAsk other prompt' options' index) := by
  unfold execAsk
  rw [setups.redaction, assistant_same setups, modelOf_same setups, promptArgs_same setups]
  refine Alike.env.andThen fun env =>
    (Alike.evaluated (Expr.render_alike look env)).andThen fun text => ?_
  refine (Alike.evaluated (Expr.evaluateEntries_alike looks env)).andThen fun values => ?_
  refine (Alike.checked _).andThen fun named => (summarize_alike index _).andThen fun _ => ?_
  refine (Alike.noteCall _ _).andThen fun _ => (callTool_alike setups _).andThen fun result => ?_
  exact .bound _ _

theorem execSet_alike (setups : setup.Alike slack other) (name : String) {expr expr' : Expr}
    (look : expr.seen slack.sight = expr'.seen slack.sight) (index : Nat) :
    Alike slack Eq (execSet setup name expr index) (execSet other name expr' index) := by
  unfold execSet
  rw [setups.slots]
  refine Alike.env.andThen fun env =>
    (Alike.evaluated (Expr.evaluate_alike look env)).andThen fun value => ?_
  refine (Alike.bound name value).andThen fun _ => (summarize_alike index _).andThen fun _ => ?_
  cases Entries.get? other.slots name with
  | none => exact .pure rfl
  | some slot => exact .hosted (setups.memory.write _)

theorem execCall_alike (setups : setup.Alike slack other) (name : String)
    {args args' : List (String × Expr)}
    (looks : Expr.seenEntries slack.sight args = Expr.seenEntries slack.sight args')
    (bindAs : Option String) (index : Nat) :
    Alike slack Eq (execCall setup name args bindAs index)
      (execCall other name args' bindAs index) := by
  unfold execCall
  rw [setups.redaction, setups.catalogue]
  refine (summarize_alike index _).andThen fun _ => (Alike.checked _).andThen fun tool => ?_
  refine Alike.env.andThen fun env =>
    (Alike.evaluated (Expr.evaluateEntries_alike looks env)).andThen fun values => ?_
  refine (summarize_alike index _).andThen fun _ => (Alike.noteCall _ _).andThen fun _ => ?_
  refine (callTool_alike setups _).andThen fun result => ?_
  cases bindAs with
  | none => exact .pure rfl
  | some target => exact .bound target _

theorem execRemember_alike (setups : setup.Alike slack other) {key key' value value' : Expr}
    (look : key.seen slack.sight = key'.seen slack.sight)
    (look' : value.seen slack.sight = value'.seen slack.sight) (mode : RememberMode) (index : Nat) :
    Alike slack Eq (execRemember setup key value mode index)
      (execRemember other key' value' mode index) := by
  refine Alike.env.andThen fun env =>
    (Alike.evaluated (Expr.evaluate_alike look env)).andThen fun value => ?_
  refine (Alike.checked _).andThen fun key =>
    (Alike.evaluated (Expr.evaluate_alike look' env)).andThen fun value => ?_
  refine (summarize_alike index _).andThen fun _ => ?_
  cases mode with
  | set => exact .hosted (setups.memory.write _)
  | append => exact .hosted (setups.memory.write _)

theorem execRecollect_alike (setups : setup.Alike slack other) {key key' : Expr}
    (look : key.seen slack.sight = key'.seen slack.sight) (bindAs : String) (index : Nat) :
    Alike slack Eq (execRecollect setup key bindAs index)
      (execRecollect other key' bindAs index) := by
  refine Alike.env.andThen fun env =>
    (Alike.evaluated (Expr.evaluate_alike look env)).andThen fun value => ?_
  refine (Alike.checked _).andThen fun key =>
    (Alike.host (setups.memory.read key)).andThen fun found => ?_
  refine (Alike.evaluated (.refl found)).andThen fun value => ?_
  exact (Alike.bound bindAs value).andThen fun _ => summarize_alike index _

/-- A branch goes alike when its bodies do. -/
theorem branch_alike {condition condition' : Expr}
    (look : condition.seen slack.sight = condition'.seen slack.sight)
    {elseBody elseBody' : Option (List Stmt)}
    (name : ∀ holds, branchName holds elseBody = branchName holds elseBody')
    {inThen inThen' inElse inElse' : Run Unit} (first : Alike slack Eq inThen inThen')
    (second : Alike slack Eq inElse inElse') (index : Nat) :
    Alike slack Eq
      (do
        let holds ← evaluated (condition.condition (← env) "Condition of 'if'")
        summarize index [("condition", .boolean holds),
          ("branch", .text (branchName holds elseBody))]
        if holds then inThen else inElse)
      (do
        let holds ← evaluated (condition'.condition (← env) "Condition of 'if'")
        summarize index [("condition", .boolean holds),
          ("branch", .text (branchName holds elseBody'))]
        if holds then inThen' else inElse') := by
  refine Alike.env.andThen fun env =>
    (Alike.evaluated (Expr.condition_alike look env _)).andThen fun holds => ?_
  rw [name]
  refine (summarize_alike index _).andThen fun _ => ?_
  cases holds with
  | true => exact first
  | false => exact second

/-- A loop goes alike when its body does. -/
theorem loop_alike (item : String) {collection collection' : Expr}
    (look : collection.seen slack.sight = collection'.seen slack.sight) {body body' : Run Unit}
    (rounds : Alike slack Eq body body') (index : Nat) :
    Alike slack Eq
      (do
        let items ← checked (← evaluated (collection.evaluate (← env))).loopItems
        summarize index [("item", .text item), ("count", .integer items.length)]
        restoring item (forEach (fun value => do bind item value; body) items))
      (do
        let items ← checked (← evaluated (collection'.evaluate (← env))).loopItems
        summarize index [("item", .text item), ("count", .integer items.length)]
        restoring item (forEach (fun value => do bind item value; body') items)) := by
  refine Alike.env.andThen fun env =>
    (Alike.evaluated (Expr.evaluate_alike look env)).andThen fun value => ?_
  refine (Alike.checked _).andThen fun items => (summarize_alike index _).andThen fun _ => ?_
  exact .restoring (.forEach fun value => (Alike.bound item value).andThen fun _ => rounds) item

mutual

/-- Statements that look the same go alike. -/
theorem exec_alike (setups : setup.Alike slack other) (stmt : Stmt) {stmt' : Stmt}
    (look : stmt.seen slack.sight = stmt'.seen slack.sight) :
    Alike slack Eq (exec setup stmt) (exec other stmt') := by
  match stmt with
  | .say expr p =>
    cases stmt' with
    | say expr' q =>
      obtain ⟨inner, place⟩ := Stmt.say.inj look
      rw [exec, exec]
      exact recorded_alike setups.paced .say place (execSay_alike setups inner)
    | _ => cases look
  | .ask prompt options p =>
    cases stmt' with
    | ask prompt' options' q =>
      obtain ⟨inner, others, place⟩ := Stmt.ask.inj look
      rw [exec, exec]
      exact recorded_alike setups.paced .ask place (execAsk_alike setups inner others)
    | _ => cases look
  | .set name expr p =>
    cases stmt' with
    | set name' expr' q =>
      obtain ⟨rfl, inner, place⟩ := Stmt.set.inj look
      rw [exec, exec]
      exact recorded_alike setups.paced .set place (execSet_alike setups name inner)
    | _ => cases look
  | .call tool args bindAs p =>
    cases stmt' with
    | call tool' args' bindAs' q =>
      obtain ⟨rfl, inner, rfl, place⟩ := Stmt.call.inj look
      rw [exec, exec]
      exact recorded_alike setups.paced .call place (execCall_alike setups tool inner bindAs)
    | _ => cases look
  | .branch condition thenBody elseBody p =>
    cases stmt' with
    | branch condition' thenBody' elseBody' q =>
      obtain ⟨inner, first, second, place⟩ := Stmt.branch.inj look
      rw [exec, exec]
      have name (holds : Bool) : branchName holds elseBody = branchName holds elseBody' := by
        cases elseBody <;> cases elseBody' <;> first | rfl | cases second
      exact recorded_alike setups.paced .branch place
        (branch_alike inner name (execAll_alike setups thenBody first)
          (execElse_alike setups elseBody second))
    | _ => cases look
  | .loop item collection body p =>
    cases stmt' with
    | loop item' collection' body' q =>
      obtain ⟨rfl, inner, rounds, place⟩ := Stmt.loop.inj look
      rw [exec, exec]
      exact recorded_alike setups.paced .loop place
        (loop_alike item inner (execAll_alike setups body rounds))
    | _ => cases look
  | .remember key value mode p =>
    cases stmt' with
    | remember key' value' mode' q =>
      obtain ⟨inner, inner', rfl, place⟩ := Stmt.remember.inj look
      rw [exec, exec]
      exact recorded_alike setups.paced .remember place
        (execRemember_alike setups inner inner' mode)
    | _ => cases look
  | .recollect key bindAs p =>
    cases stmt' with
    | recollect key' bindAs' q =>
      obtain ⟨inner, rfl, place⟩ := Stmt.recollect.inj look
      rw [exec, exec]
      exact recorded_alike setups.paced .recollect place (execRecollect_alike setups inner bindAs)
    | _ => cases look

theorem execAll_alike (setups : setup.Alike slack other) (body : List Stmt) {body' : List Stmt}
    (look : Stmt.seenAll slack.sight body = Stmt.seenAll slack.sight body') :
    Alike slack Eq (execAll setup body) (execAll other body') := by
  match body with
  | [] =>
    cases body' with
    | nil =>
      rw [execAll, execAll]
      exact .pure rfl
    | cons stmt' rest' => cases look
  | stmt :: rest =>
    cases body' with
    | nil => cases look
    | cons stmt' rest' =>
      obtain ⟨first, others⟩ := List.cons.inj look
      rw [execAll, execAll]
      exact (exec_alike setups stmt first).andThen fun _ => execAll_alike setups rest others

theorem execElse_alike (setups : setup.Alike slack other) (elseBody : Option (List Stmt))
    {elseBody' : Option (List Stmt)}
    (look : Stmt.seenElse slack.sight elseBody = Stmt.seenElse slack.sight elseBody') :
    Alike slack Eq (execElse setup elseBody) (execElse other elseBody') := by
  match elseBody with
  | none =>
    cases elseBody' with
    | none =>
      rw [execElse, execElse]
      exact .pure rfl
    | some body' => cases look
  | some body =>
    cases elseBody' with
    | none => cases look
    | some body' =>
      rw [execElse, execElse]
      exact execAll_alike setups body (Option.some.inj look)

end

end Run

end BotScript
