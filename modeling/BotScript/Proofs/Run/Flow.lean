import BotScript.Proofs.Evaluation.Bound
import BotScript.Proofs.Evaluation.Keys
import BotScript.Proofs.Evaluation.Unbound
import BotScript.Proofs.Host.Raised
import BotScript.Proofs.Run.Accounts
import BotScript.Proofs.Run.Detached
import BotScript.Proofs.Run.Takes

/-! How variables change during a run. A flow is made of everything that statements can do to
variables and to the memory: they bind what they may bind, they write what they have just bound to
the slot of a declared variable, they write to keys that their records name, and a loop puts the
binding back that it has kept. What a flow preserves in each of these steps, a run of any statements
preserves. -/

namespace BotScript

open Value (WellKeyed)

/-- A turn with nothing but the variables as they stood. -/
def Turn.sight (turn : Turn Standing) : Turn Environment :=
  ⟨turn.standing.state.env, turn.exchange⟩

theorem sight_of_asked (standing : Standing) (asked : List Exchange) :
    (asked.map (Turn.mk standing)).map Turn.sight = asked.map (Turn.mk standing.state.env) := by
  rw [List.map_map]
  rfl

theorem sight_of_standing {standing : Standing} {env : Environment}
    (stood : standing.state.env = env) (exchange : Exchange) :
    [Turn.mk standing exchange].map Turn.sight = [⟨env, exchange⟩] := by
  rw [← stood]
  rfl

theorem exchanges_of_asked {σ : Type} (standing : σ) (asked : List Exchange) :
    (asked.map (Turn.mk standing)).map Turn.exchange = asked := by
  simp [Function.comp_def]

theorem exchanges_of_sights (turns : List (Turn Standing)) :
    (turns.map Turn.sight).map Turn.exchange = turns.map Turn.exchange := by
  rw [List.map_map]
  rfl

theorem sight_within (saved : Environment.Saved) (turns : List (Turn Standing)) :
    (turns.map (Turn.within (Standing.inside saved))).map Turn.sight = turns.map Turn.sight := by
  rw [List.map_map]
  rfl

theorem cause_of_fault {α : Type} (given : Except Fault α) :
    (given.mapError Stop.fault).mapError Stop.cause? =
      given.mapError fun fault => some fault.cause := by
  cases given <;> rfl

theorem cause_of_locate {α : Type} (result : Except Stop α) (p : Position) :
    (result.mapError (Stop.locate p)).mapError Stop.cause? = result.mapError Stop.cause? := by
  cases result with
  | ok a => rfl
  | error stop => exact congrArg Except.error (Stop.cause?_locate stop p)

/-- Variables flow through some statements: from those in front to those behind, with the questions
in between, each with the variables as they stood, and with the cause of what stopped the
statements, if something did. -/
inductive Flow (setup : Setup) (stmts : List Stmt) :
    Environment → List (Turn Environment) → Except (Option Cause) Unit → Environment → Prop
  | still (env : Environment) : Flow setup stmts env [] (.ok ()) env
  /-- A statement fails; if that is for an unbound variable, one of its expressions misses it. -/
  | fails {env : Environment} {stmt : Stmt} {cause : Option Cause} (member : stmt ∈ stmts)
      (misses : ∀ name bound, cause = some (.unbound name bound) → ∃ e ∈ stmt.expressions,
        e.Misses env name bound) :
      Flow setup stmts env [] (.error cause) env
  /-- The host is asked for something else than its memory or a tool. -/
  | looks {env : Environment} {exchange : Exchange} (apart : exchange.memoryCall? = none)
      (idle : exchange.toolRun? = none) :
      Flow setup stmts env [⟨env, exchange⟩] (.ok ()) env
  | calls {env : Environment} {call : ToolCall} {ended : ToolCall.Ended} {asked : List Exchange}
      (keyed : WellKeyed (.object call.args))
      (path : (call.perform setup.deadline setup.settings.toolTimeout).Path asked ended) :
      Flow setup stmts env (asked.map (Turn.mk env))
        ((ended.result.map fun _ => ()).mapError fun fault => fault.cause) env
  /-- A statement binds its variable, unless it also has to write it to the memory. -/
  | binds {env : Environment} {stmt : Stmt} {name : String} {value : Value} (member : stmt ∈ stmts)
      (target : stmt.bound? = some name)
      (unkept : ∀ expr p, stmt = .set name expr p → Entries.get? setup.slots name = none)
      (keyed : value.WellKeyed) :
      Flow setup stmts env [] (.ok ()) (env.bind name value)
  /-- A declared variable is set and written to its slot. -/
  | saves {env : Environment} {name : String} {expr : Expr} {p : Position} {slot : Slot}
      {value : Value} {asked : List Exchange} {given : Except Fault Unit}
      (member : .set name expr p ∈ stmts) (kept : Entries.get? setup.slots name = some slot)
      (keyed : value.WellKeyed)
      (path : (setup.memory.write (.set slot.key value)).Path asked given) :
      Flow setup stmts env (asked.map (Turn.mk (env.bind name value)))
        (given.mapError fun fault => fault.cause)
        (env.bind name value)
  /-- Something is written to the memory, and the record of the statement names its key. -/
  | remembers {env : Environment} {key item : Expr} {mode : RememberMode} {p : Position}
      {call : MemoryCall} {asked : List Exchange} {step : Step} {told : Bool}
      (member : .remember key item mode p ∈ stmts) (keyed : call.WellKeyed)
      (path : (setup.memory.write call).Path asked (.ok ())) (kind : step.kind = .remember)
      (noted : step.noted? "key" = some call.key) :
      Flow setup stmts env (asked.map (Turn.mk env) ++ [⟨env, ⟨.stepEnded step, told⟩⟩])
        (.ok ()) env
  | refused {env : Environment} {key item : Expr} {mode : RememberMode} {p : Position}
      {call : MemoryCall} {asked : List Exchange} {fault : Fault}
      (member : .remember key item mode p ∈ stmts) (keyed : call.WellKeyed)
      (path : (setup.memory.write call).Path asked (.error fault)) :
      Flow setup stmts env (asked.map (Turn.mk env)) (.error fault.cause) env
  | reads {env : Environment} {key : String} {asked : List Exchange} {given : Except Stop Value}
      (path : (setup.memory.read key).Path asked given) :
      Flow setup stmts env (asked.map (Turn.mk env))
        ((given.map fun _ => ()).mapError Stop.cause?) env
  /-- A loop puts the binding of its item back, however it ends. -/
  | loops {env middle : Environment} {item : String} {collection : Expr} {body : List Stmt}
      {p : Position} {sights : List (Turn Environment)} {result : Except (Option Cause) Unit}
      (member : .loop item collection body p ∈ stmts)
      (rounds : Flow setup stmts env sights result middle) :
      Flow setup stmts env sights result (middle.restore (env.save item))
  | thens {env middle after : Environment} {front back : List (Turn Environment)}
      {result : Except (Option Cause) Unit} (first : Flow setup stmts env front (.ok ()) middle)
      (later : Flow setup stmts middle back result after) :
      Flow setup stmts env (front ++ back) result after
  /-- Behind a failure nothing changes any more. -/
  | behind {env after : Environment} {sights : List (Turn Environment)} {cause : Option Cause}
      {exchange : Exchange} (first : Flow setup stmts env sights (.error cause) after)
      (apart : exchange.memoryCall? = none) (idle : exchange.toolRun? = none) :
      Flow setup stmts env (sights ++ [⟨after, exchange⟩]) (.error cause) after

namespace Flow

variable {setup : Setup} {stmts : List Stmt} {env after : Environment}
  {sights : List (Turn Environment)}
  {result : Except (Option Cause) Unit}

/-- No object that a statement binds has a key twice. -/
theorem wellKeyed (flow : Flow setup stmts env sights result after) (keyed : env.WellKeyed) :
    after.WellKeyed := by
  induction flow with
  | still | fails | looks | calls | remembers | refused | reads => exact keyed
  | binds _ _ _ given | saves _ _ given _ => exact keyed.bind given _
  | loops _ _ ih => exact (ih keyed).restore keyed _
  | thens _ _ first later => exact later (first keyed)
  | behind _ _ _ ih => exact ih keyed

/-- What is bound before stays bound, whatever loops put back. -/
theorem keeps_bound {names : List String} (flow : Flow setup stmts env sights result after)
    (bound : env.Binds names) :
    after.Binds names ∧ ∀ sight ∈ sights, sight.standing.Binds names := by
  induction flow with
  | still | fails => exact ⟨bound, List.forall_mem_nil _⟩
  | looks => exact ⟨bound, List.forall_mem_singleton.mpr bound⟩
  | calls | refused | reads => exact ⟨bound, List.forall_mem_map.mpr fun _ _ => bound⟩
  | binds => exact ⟨bound.bind _ _, List.forall_mem_nil _⟩
  | saves => exact ⟨bound.bind _ _, List.forall_mem_map.mpr fun _ _ => bound.bind _ _⟩
  | remembers =>
    refine ⟨bound, List.forall_mem_append.mpr ⟨List.forall_mem_map.mpr fun _ _ => bound, ?_⟩⟩
    exact List.forall_mem_singleton.mpr bound
  | loops _ _ ih => exact ⟨bound.restore (ih bound).1 _, (ih bound).2⟩
  | thens _ _ first later =>
    obtain ⟨middle, early⟩ := first bound
    obtain ⟨last, late⟩ := later middle
    exact ⟨last, List.forall_mem_append.mpr ⟨early, late⟩⟩
  | behind _ _ _ ih =>
    exact ⟨(ih bound).1, List.forall_mem_append.mpr ⟨(ih bound).2,
      List.forall_mem_singleton.mpr (ih bound).1⟩⟩

/-- Statements that fail for an unbound variable have an expression that misses it while everything
is bound that was bound before, unless the host raised the failure. -/
theorem misses {names known : List String} {name : String}
    (flow : Flow setup stmts env sights result after) (bound : env.Binds names)
    (failed : result = .error (some (.unbound name known))) :
    (∃ stmt ∈ stmts, ∃ e ∈ stmt.expressions, ∃ env' : Environment, env'.Binds names ∧
      e.Misses env' name known) ∨
      Exchange.Raised (sights.map Turn.exchange) (.unbound name known) := by
  induction flow with
  | still | looks | binds | remembers => cases failed
  | fails member misses =>
    obtain ⟨e, among, missed⟩ := misses name known (Except.error.inj failed)
    exact .inl ⟨_, member, e, among, _, bound, missed⟩
  | @calls env call ended asked _ path =>
    refine .inr ?_
    cases given : ended.result with
    | ok answer =>
      rw [given] at failed
      cases failed
    | error fault =>
      rw [given] at failed
      have cause : fault.cause = .unbound name known := Option.some.inj (Except.error.inj failed)
      have raised := ToolCall.perform_raised path given (by rw [cause]; rfl)
      rw [exchanges_of_asked, ← cause]
      exact raised
  | @saves env name' expr p slot value asked given _ _ _ path =>
    refine .inr ?_
    cases given with
    | ok written => cases failed
    | error fault =>
      have cause : fault.cause = .unbound name known := Option.some.inj (Except.error.inj failed)
      have raised := MemoryAccess.write_raised path (by rw [cause]; rfl)
      rw [exchanges_of_asked, ← cause]
      exact raised
  | @refused env _ _ _ _ call asked fault _ _ path =>
    have cause : fault.cause = .unbound name known := Option.some.inj (Except.error.inj failed)
    have raised := MemoryAccess.write_raised path (by rw [cause]; rfl)
    rw [exchanges_of_asked, ← cause]
    exact .inr raised
  | @reads env key asked given path =>
    refine .inr ?_
    match given with
    | .ok value => cases failed
    | .error (.escape _) => cases Except.error.inj failed
    | .error (.fault fault) =>
      have cause : fault.cause = .unbound name known := Option.some.inj (Except.error.inj failed)
      have raised := MemoryAccess.read_raised path (by rw [cause]; rfl)
      rw [exchanges_of_asked, ← cause]
      exact raised
  | loops _ _ ih => exact ih bound failed
  | thens first _ _ later =>
    rcases later (first.keeps_bound bound).1 failed with missed | raised
    · exact .inl missed
    · rw [List.map_append]
      exact .inr (raised.mono (List.subset_append_right _ _))
  | behind _ _ _ ih =>
    rcases ih bound failed with missed | raised
    · exact .inl missed
    · rw [List.map_append]
      exact .inr (raised.mono (List.subset_append_left _ _))

/-- A statement fails for a cause that is not about variables. -/
theorem fails_otherwise {stmt : Stmt} {cause : Cause} (member : stmt ∈ stmts)
    (other : cause.kind ≠ .unbound) :
    Flow setup stmts env [] (.error (some cause)) env := by
  refine .fails member fun name bound same => ?_
  obtain rfl := Option.some.inj same
  exact absurd rfl other

end Flow

namespace Run

variable {setup : Setup} {stmts : List Stmt} {before after : RunState}
  {turns : List (Turn Standing)}
  {result : Except Stop Unit}

/-- A part of a run lets variables flow as through some statements. -/
def Flows (setup : Setup) (stmts : List Stmt) (part : Run Unit) : Prop :=
  ∀ before turns result after, before.env.WellKeyed → Takes part before turns result after →
    Flow setup stmts before.env (turns.map Turn.sight) (result.mapError Stop.cause?) after.env

theorem Flows.taken {part : Run Unit} (flows : Flows setup stmts part)
    (taken : Takes part before turns result after) (keyed : before.env.WellKeyed) :
    Flow setup stmts before.env (turns.map Turn.sight) (result.mapError Stop.cause?) after.env :=
  flows before turns result after keyed taken

theorem flows_pure : Flows setup stmts (pure ()) := by
  intro before turns result after _ taken
  obtain ⟨rfl, rfl, rfl⟩ := takes_pure.mp taken
  exact .still _

/-- One part behind another. -/
theorem Flows.thens {part next : Run Unit} (first : Flows setup stmts part)
    (later : Flows setup stmts next) :
    Flows setup stmts (part >>= fun _ => next) := by
  intro before turns result after keyed taken
  rcases takes_bind.mp taken with ⟨⟨⟩, front, middle, back, begun, rest, rfl⟩ | ⟨stop, stopped, rfl⟩
  · have flow := first before front _ middle keyed begun
    rw [List.map_append]
    exact .thens flow (later middle back result after (flow.wellKeyed keyed) rest)
  · exact first before turns _ after keyed stopped

theorem flows_execAll {body : List Stmt}
    (each : ∀ stmt ∈ body, Flows setup stmts (exec setup stmt)) :
    Flows setup stmts (execAll setup body) := by
  induction body with
  | nil =>
    rw [execAll]
    exact flows_pure
  | cons stmt rest ih =>
    rw [execAll]
    exact (each stmt List.mem_cons_self).thens
      (ih fun other member => each other (List.mem_cons_of_mem _ member))

/-! ## Statements that contain no others -/

theorem flows_say {expr : Expr} {p : Position} (member : .say expr p ∈ stmts) (index : Nat) :
    Flows setup stmts (execSay setup expr index) := by
  intro before turns result after _ taken
  simp only [execSay, say, summarize, takes_env_bind, takes_evaluated_bind, takes_modify_bind,
    takes_modify] at taken
  rcases taken with ⟨text, -, rfl, rfl, rfl⟩ | ⟨stop, failed, rfl, rfl, rfl⟩
  · exact .still _
  · exact .fails member fun name bound unbound =>
      ⟨expr, List.mem_cons_self, Expr.misses_of_render failed unbound⟩

/-- Calling a tool changes no variable, and no object in its answer has a key twice. -/
theorem callTool_flow (stmts : List Stmt) {call : ToolCall} {result : Except Stop ToolResult}
    (keyed : WellKeyed (.object call.args))
    (taken : Takes (callTool setup call) before turns result after) :
    Flow setup stmts before.env (turns.map Turn.sight)
        ((result.map fun _ => ()).mapError Stop.cause?) before.env ∧
      after.env = before.env ∧ Gives ToolResult.WellKeyed result := by
  simp only [callTool, tell, takes_modify_bind, takes_host_bind] at taken
  obtain ⟨ended, asked, back, path, rest, rfl⟩ := taken
  have answered : Gives ToolResult.WellKeyed ended.result := by
    obtain ⟨work, _, _, -, concluded, -⟩ := Dialogue.path_bind_iff.mp path
    obtain ⟨-, rfl⟩ := Dialogue.path_pure_iff.mp concluded
    exact call.conclude_wellKeyed work
  have flow : Flow setup stmts before.env (asked.map (Turn.mk before.env)) _ before.env :=
    .calls keyed path
  cases given : ended.result with
  | ok answer =>
    rw [given] at rest answered flow
    obtain ⟨rfl, rfl, rfl⟩ := takes_pure.mp rest
    rw [List.append_nil, sight_of_asked]
    exact ⟨flow, rfl, .ok (answered answer rfl)⟩
  | error fault =>
    rw [given] at rest flow
    obtain ⟨rfl, rfl, rfl⟩ := takes_throw.mp rest
    rw [List.append_nil, sight_of_asked]
    exact ⟨flow, rfl, .error _⟩

/-- A tool is called, and what follows binds at most a variable to its answer. -/
theorem flows_callTool_bind {call : ToolCall} {next : ToolResult → Run Unit}
    (args : WellKeyed (.object call.args))
    (later : ∀ answer : ToolResult, answer.WellKeyed → Flows setup stmts (next answer)) :
    Flows setup stmts (callTool setup call >>= next) := by
  intro before turns result after keyed taken
  rcases takes_bind.mp taken with ⟨answer, front, middle, back, called, bound, rfl⟩ |
    ⟨stop, called, rfl⟩
  · obtain ⟨flow, same, given⟩ := callTool_flow stmts args called
    have further := later answer (given answer rfl) middle back result after (same ▸ keyed) bound
    rw [same] at further
    rw [List.map_append]
    exact .thens flow further
  · obtain ⟨flow, same, -⟩ := callTool_flow stmts args called
    rw [same]
    exact flow

theorem flows_bind {stmt : Stmt} {name : String} {value : Value} (member : stmt ∈ stmts)
    (target : stmt.bound? = some name) (unset : ∀ name expr p, stmt ≠ .set name expr p)
    (keyed : value.WellKeyed) :
    Flows setup stmts (bind name value) := by
  intro before turns result after _ taken
  obtain ⟨rfl, rfl, rfl⟩ := takes_modify.mp taken
  exact .binds member target (fun expr p same => absurd same (unset name expr p)) keyed

theorem flows_ask {named field : String → Prop} {prompt : Expr} {options : List (String × Expr)}
    {p : Position} (member : .ask prompt options p ∈ stmts)
    (spelled : ∀ option ∈ options, option.2.Spelled named field) (index : Nat) :
    Flows setup stmts (execAsk setup prompt options index) := by
  intro before turns result after keyed taken
  simp only [execAsk, summarize, noteCall, takes_env_bind, takes_evaluated_bind, takes_checked_bind,
    takes_modify_bind] at taken
  rcases taken with
    ⟨text, -, ⟨values, given, ⟨⟨name, tool⟩, -, taken⟩ | ⟨cause, failed, rfl, rfl, rfl⟩⟩ |
    ⟨stop, failed, rfl, rfl, rfl⟩⟩ | ⟨stop, failed, rfl, rfl, rfl⟩
  · have args := promptArgs_wellKeyed setup text
      (.ofList (Expr.evaluateEntries_wellKeyed spelled keyed values given))
    have later : ∀ answer : ToolResult, answer.WellKeyed →
      Flows setup stmts (bind Stmt.resultName answer.value) :=
      fun answer given => flows_bind member rfl nofun (ToolResult.value_wellKeyed given)
    have flow := (flows_callTool_bind args later).taken taken keyed
    exact flow
  · exact Flow.fails_otherwise member (assistant_kind failed ▸ nofun)
  · refine .fails member fun name bound unbound => ?_
    obtain ⟨entry, among, misses⟩ := Expr.misses_of_evaluateEntries failed unbound
    exact ⟨entry.2, List.mem_cons_of_mem _ (List.mem_map_of_mem among), misses⟩
  · exact .fails member fun name bound unbound =>
      ⟨prompt, List.mem_cons_self, Expr.misses_of_render failed unbound⟩

theorem flows_call {named field : String → Prop} {name : String} {args : List (String × Expr)}
    {bindAs : Option String} {p : Position} (member : .call name args bindAs p ∈ stmts)
    (spelled : ∀ arg ∈ args, arg.2.Spelled named field) (index : Nat) :
    Flows setup stmts (execCall setup name args bindAs index) := by
  intro before turns result after keyed taken
  simp only [execCall, summarize, noteCall, takes_env_bind, takes_evaluated_bind,
    takes_checked_bind, takes_modify_bind] at taken
  rcases taken with ⟨tool, -, ⟨values, given, taken⟩ | ⟨stop, failed, rfl, rfl, rfl⟩⟩ |
    ⟨cause, failed, rfl, rfl, rfl⟩
  · have sound : WellKeyed (.object (Entries.ofList values)) :=
      .ofList (Expr.evaluateEntries_wellKeyed spelled keyed values given)
    cases bindAs with
    | none =>
      have later : ∀ answer : ToolResult, answer.WellKeyed → Flows setup stmts (pure ()) :=
        fun _ _ => flows_pure
      have flow := (flows_callTool_bind sound later).taken taken keyed
      exact flow
    | some target =>
      have later : ∀ answer : ToolResult, answer.WellKeyed →
        Flows setup stmts (bind target answer.value) :=
        fun answer given => flows_bind member rfl nofun (ToolResult.value_wellKeyed given)
      have flow := (flows_callTool_bind sound later).taken taken keyed
      exact flow
  · refine .fails member fun name bound unbound => ?_
    obtain ⟨entry, among, misses⟩ := Expr.misses_of_evaluateEntries failed unbound
    exact ⟨entry.2, List.mem_map_of_mem among, misses⟩
  · exact Flow.fails_otherwise member (require_kind failed ▸ nofun)

theorem flows_set {named field : String → Prop} {name : String} {expr : Expr} {p : Position}
    (member : .set name expr p ∈ stmts) (spelled : expr.Spelled named field) (index : Nat) :
    Flows setup stmts (execSet setup name expr index) := by
  intro before turns result after keyed taken
  simp only [execSet, bind, summarize, takes_env_bind, takes_evaluated_bind,
    takes_modify_bind] at taken
  rcases taken with ⟨value, given, taken⟩ | ⟨stop, failed, rfl, rfl, rfl⟩
  · have sound : value.WellKeyed := spelled.evaluate_wellKeyed keyed value given
    cases slot : Entries.get? setup.slots name with
    | none =>
      rw [slot] at taken
      obtain ⟨rfl, rfl, rfl⟩ := takes_pure.mp taken
      refine .binds member rfl ?_ sound
      rintro _ _ ⟨rfl⟩
      exact slot
    | some kept =>
      rw [slot] at taken
      obtain ⟨given, asked, path, rfl, rfl, rfl⟩ := takes_hosted.mp taken
      rw [sight_of_asked, cause_of_fault]
      exact .saves member slot sound path
  · exact .fails member fun name bound unbound =>
      ⟨expr, List.mem_cons_self, Expr.misses_of_evaluate failed unbound⟩

theorem flows_recollect {key : Expr} {bindAs : String} {p : Position}
    (member : .recollect key bindAs p ∈ stmts) (index : Nat) :
    Flows setup stmts (execRecollect setup key bindAs index) := by
  intro before turns result after keyed taken
  simp only [execRecollect, bind, summarize, takes_env_bind, takes_evaluated_bind,
    takes_checked_bind, takes_host_bind, takes_modify_bind, takes_modify] at taken
  rcases taken with ⟨keyValue, -, ⟨text, -, given, asked, back, path, taken, rfl⟩ |
    ⟨cause, failed, rfl, rfl, rfl⟩⟩ |
    ⟨stop, failed, rfl, rfl, rfl⟩
  · have read : Flow setup stmts before.env (asked.map (Turn.mk before.env)) _ before.env :=
      .reads path
    rcases taken with ⟨value, rfl, rfl, rfl, rfl⟩ | ⟨stop, rfl, rfl, rfl, rfl⟩
    · rw [List.append_nil, sight_of_asked, ← List.append_nil (asked.map _)]
      exact .thens read (.binds member rfl nofun (MemoryAccess.read_wellKeyed path value rfl))
    · rw [List.append_nil, sight_of_asked]
      exact read
  · exact Flow.fails_otherwise member (memoryKey_kind failed ▸ nofun)
  · exact .fails member fun name bound unbound =>
      ⟨key, List.mem_cons_self, Expr.misses_of_evaluate failed unbound⟩

/-! ## Statements with their records -/

/-- A statement ends: its record, where it is, is completed and shown to the host. -/
theorem finish_takes {index : Nat} {outcome : StepOutcome}
    (taken : Takes (finish index outcome) before turns result after) :
    result = .ok () ∧ after.env = before.env ∧
      (before.steps[index]? = none ∧ turns = [] ∨
        ∃ record standing told, before.steps[index]? = some record ∧
          standing.state.env = before.env ∧
          turns = [⟨standing, ⟨.stepEnded { record with outcome }, told⟩⟩]) := by
  simp only [finish, takes_modify_bind, takes_get_bind, List.getElem?_modify_eq] at taken
  cases found : before.steps[index]? with
  | none =>
    simp only [found, Option.map_eq_map, Option.map_none] at taken
    obtain ⟨rfl, rfl, rfl⟩ := takes_pure.mp taken
    exact ⟨rfl, rfl, .inl ⟨rfl, rfl⟩⟩
  | some record =>
    simp only [found, Option.map_eq_map, Option.map_some, tell, takes_modify_bind,
      takes_host_bind] at taken
    obtain ⟨told, asked, back, query, taken, rfl⟩ := taken
    obtain rfl := Dialogue.path_query_iff.mp query
    have ended : back = [] ∧ result = .ok () ∧ after.env = before.env := by
      split at taken
      · obtain ⟨rfl, rfl, rfl⟩ := takes_pure.mp taken
        exact ⟨rfl, rfl, rfl⟩
      · obtain ⟨rfl, rfl, rfl⟩ := takes_modify.mp taken
        exact ⟨rfl, rfl, rfl⟩
    obtain ⟨rfl, rfl, same⟩ := ended
    exact ⟨rfl, same, .inr ⟨record, _, told, rfl, rfl, rfl⟩⟩

private theorem begin_takes {kind : StepKind} {p : Position} {result : Except Stop Nat}
    (taken : Takes (begin kind p) before turns result after) :
    turns = [] ∧ result = .ok before.steps.length ∧
    after = { before with steps := opened before.steps kind p [] } := by
  simp only [begin, takes_get_bind, takes_modify_bind] at taken
  exact takes_pure.mp taken

/-- A statement with its record: the run may not go on to it, or it starts after that was asked, and
its record is completed however it ends. -/
theorem recorded_takes {deadline : Option Deadline} {kind : StepKind} {p : Position}
    {statement : Nat → Run Unit}
    (taken : Takes (recorded deadline kind p statement) before turns result after) :
    ∃ moment,
      (∃ cause, checkMoment deadline moment .betweenStatements = .error cause ∧
        turns = [⟨⟨before, []⟩, ⟨.observe, moment⟩⟩] ∧ result = .error (.fault (.of cause)) ∧
        after = before) ∨
      ∃ kept inner middle last,
        Takes (statement before.steps.length)
          { before with steps := opened before.steps kind p [] } inner kept middle ∧
        Takes (finish before.steps.length (outcomeOf p kept)) middle last (.ok ()) after ∧
        turns = ⟨⟨before, []⟩, ⟨.observe, moment⟩⟩ :: (inner ++ last) ∧
        result = kept.mapError (Stop.locate p) := by
  rcases takes_bind.mp taken with ⟨⟨⟩, front, ready, back, allowed, rest, rfl⟩ |
    ⟨stop, refused, rfl⟩
  · obtain ⟨moment, asked, last, query, checks, rfl⟩ := takes_host_bind.mp allowed
    obtain rfl := Dialogue.path_query_iff.mp query
    obtain ⟨rfl, -, rfl⟩ := takes_checked.mp checks
    rcases takes_bind.mp rest with ⟨index, _, started, _, begun, rest, rfl⟩ | ⟨stop, begun, -⟩
    · obtain ⟨rfl, same, rfl⟩ := begin_takes begun
      obtain rfl := Except.ok.inj same
      obtain ⟨kept, inner, middle, behind, performed, rest, whole⟩ := takes_attempt_bind.mp rest
      rcases takes_bind.mp rest with ⟨⟨⟩, last, final, _, finished, passed, parts⟩ |
        ⟨stop, finished, -⟩
      · obtain ⟨rfl, rfl, rfl⟩ := takes_evaluated.mp passed
        refine ⟨moment, .inr ⟨kept, inner, middle, last, performed, finished, ?_, rfl⟩⟩
        simp [whole, parts]
      · cases (finish_takes finished).1
    · cases (begin_takes begun).2.1
  · obtain ⟨moment, asked, last, query, checks, rfl⟩ := takes_host_bind.mp refused
    obtain rfl := Dialogue.path_query_iff.mp query
    obtain ⟨rfl, same, rfl⟩ := takes_checked.mp checks
    refine ⟨moment, .inl ?_⟩
    cases late : checkMoment deadline moment .betweenStatements with
    | ok passed =>
      rw [late] at same
      cases same
    | error cause =>
      rw [late] at same
      obtain rfl := Except.error.inj same
      exact ⟨cause, rfl, rfl, rfl, rfl⟩

/-- Nothing changes when a statement ends. -/
theorem flow_ended {env : Environment} {sights : List (Turn Environment)}
    {given : Except (Option Cause) Unit} {index : Nat} {outcome : StepOutcome}
    (taken : Takes (finish index outcome) before turns result after)
    (flow : Flow setup stmts env sights given before.env) :
    Flow setup stmts env (sights ++ turns.map Turn.sight) given after.env := by
  obtain ⟨-, same, ⟨-, rfl⟩ | ⟨record, standing, told, -, stood, rfl⟩⟩ := finish_takes taken
  · rw [same, List.map_nil, List.append_nil]
    exact flow
  · rw [same, sight_of_standing stood]
    cases given with
    | ok finished => exact .thens flow (.looks rfl rfl)
    | error cause => exact .behind flow rfl rfl

/-- A statement lets variables flow behind the question whether the run may go on to it. -/
theorem flows_allowed {kind : StepKind} {p : Position} {stmt : Stmt} {statement : Nat → Run Unit}
    (member : stmt ∈ stmts)
    (inner : ∀ (before : RunState) (during : List (Turn Standing)) (kept : Except Stop Unit)
      (middle : RunState)
      (last : List (Turn Standing)) (after : RunState), before.env.WellKeyed →
      Takes (statement before.steps.length)
        { before with steps := opened before.steps kind p [] } during kept middle →
      Takes (finish before.steps.length (outcomeOf p kept)) middle last (.ok ()) after →
      Flow setup stmts before.env (during.map Turn.sight ++ last.map Turn.sight)
        (kept.mapError Stop.cause?) after.env) :
    Flows setup stmts (recorded setup.deadline kind p statement) := by
  intro before turns result after keyed taken
  obtain ⟨moment, ⟨cause, late, rfl, rfl, rfl⟩ |
      ⟨kept, during, middle, last, performed, finished, rfl, rfl⟩⟩ :=
    recorded_takes taken
  · have other : cause.kind ≠ .unbound :=
      fun unbound => checkMoment_kind late (congrArg ErrorKind.isProgram unbound)
    exact .thens (.looks rfl rfl) (Flow.fails_otherwise member other)
  · rw [cause_of_locate, List.map_cons, List.map_append]
    exact .thens (.looks rfl rfl)
      (inner before during kept middle last after keyed performed finished)

/-- A statement with its record lets variables flow as the statement itself does. -/
theorem flows_recorded {kind : StepKind} {p : Position} {stmt : Stmt} {statement : Nat → Run Unit}
    (member : stmt ∈ stmts) (inner : ∀ index, Flows setup stmts (statement index)) :
    Flows setup stmts (recorded setup.deadline kind p statement) := by
  refine flows_allowed member fun before during kept middle last after keyed performed finished =>
    ?_
  have flow := (inner _).taken performed keyed
  exact flow_ended finished flow

/-- What is remembered goes under the key that the record names. -/
theorem flows_remember {named field : String → Prop} {key value : Expr} {mode : RememberMode}
    {p : Position} (member : .remember key value mode p ∈ stmts)
    (spelled : value.Spelled named field) :
    Flows setup stmts
      (recorded setup.deadline .remember p (execRemember setup key value mode)) := by
  refine flows_allowed member fun before during kept middle last after keyed performed finished =>
    ?_
  simp only [execRemember, summarize, takes_env_bind, takes_evaluated_bind, takes_checked_bind,
    takes_modify_bind, summarize_opened] at performed
  rcases performed with
    ⟨keyValue, -, ⟨text, -, ⟨item, given, performed⟩ | ⟨stop, failed, rfl, rfl, rfl⟩⟩ |
    ⟨cause, failed, rfl, rfl, rfl⟩⟩ | ⟨stop, failed, rfl, rfl, rfl⟩
  · have sound : item.WellKeyed := spelled.evaluate_wellKeyed keyed item given
    have written : ∃ call : MemoryCall, call.key = text ∧ call.WellKeyed ∧
        Takes (hosted (setup.memory.write call))
        { before with
          steps := opened before.steps .remember p
            [("key", .text text), ("mode", .text mode.word), ("type", .text item.kind.name)] }
              during kept middle := by
      cases mode with
      | set => exact ⟨.set text item, rfl, sound, performed⟩
      | append => exact ⟨.append text item, rfl, sound, performed⟩
    obtain ⟨call, rfl, writes, performed⟩ := written
    obtain ⟨given, asked, path, rfl, rfl, rfl⟩ := takes_hosted.mp performed
    rw [sight_of_asked, cause_of_fault]
    cases given with
    | error fault =>
      have flow : Flow setup stmts before.env (asked.map (Turn.mk before.env)) _ before.env :=
        .refused member writes path
      exact flow_ended finished flow
    | ok done =>
      obtain ⟨-, same, ⟨nowhere, -⟩ | ⟨record, standing, told, found, stood, rfl⟩⟩ :=
        finish_takes finished
      · rw [opened_getElem?] at nowhere
        cases nowhere
      · rw [opened_getElem?] at found
        obtain rfl := Option.some.inj found
        rw [same, sight_of_standing stood]
        exact .remembers member writes path rfl (by simp [Step.noted?, Entries.get?])
  · have flow : Flow setup stmts before.env [] _ before.env :=
      .fails member fun name bound unbound =>
      ⟨value, by simp [Stmt.expressions], Expr.misses_of_evaluate failed unbound⟩
    exact flow_ended finished flow
  · exact flow_ended finished (Flow.fails_otherwise member
      ((memoryKey_kind failed).trans_ne (by decide)))
  · have flow : Flow setup stmts before.env [] _ before.env :=
      .fails member fun name bound unbound =>
      ⟨key, List.mem_cons_self, Expr.misses_of_evaluate failed unbound⟩
    exact flow_ended finished flow

/-! ## Statements that contain others -/

theorem flows_forEach {part : Value → Run Unit} {items : List Value}
    (each : ∀ item ∈ items, Flows setup stmts (part item)) :
    Flows setup stmts (forEach part items) := by
  induction items with
  | nil => exact flows_pure
  | cons item rest ih =>
    exact (each item List.mem_cons_self).thens
      (ih fun other member => each other (List.mem_cons_of_mem _ member))

theorem flows_branch {condition : Expr} {thenBody : List Stmt} {elseBody : Option (List Stmt)}
    {p : Position} (member : .branch condition thenBody elseBody p ∈ stmts)
    (inThen : Flows setup stmts (execAll setup thenBody))
    (inElse : Flows setup stmts (execElse setup elseBody)) :
    Flows setup stmts (exec setup (.branch condition thenBody elseBody p)) := by
  rw [exec]
  refine flows_recorded member fun index before turns result after keyed taken => ?_
  simp only [summarize, takes_env_bind, takes_evaluated_bind, takes_modify_bind] at taken
  rcases taken with ⟨holds, -, taken⟩ | ⟨stop, failed, rfl, rfl, rfl⟩
  · split at taken
    · have flow := inThen.taken taken keyed
      exact flow
    · have flow := inElse.taken taken keyed
      exact flow
  · exact .fails member fun name bound unbound =>
      ⟨condition, List.mem_cons_self, Expr.misses_of_condition failed unbound⟩

theorem flows_loop {named field : String → Prop} {item : String} {collection : Expr}
    {body : List Stmt} {p : Position} (member : .loop item collection body p ∈ stmts)
    (spelled : collection.Spelled named field) (inner : Flows setup stmts (execAll setup body)) :
    Flows setup stmts (exec setup (.loop item collection body p)) := by
  rw [exec]
  refine flows_recorded member fun index before turns result after keyed taken => ?_
  simp only [summarize, takes_env_bind, takes_evaluated_bind, takes_checked_bind, takes_modify_bind,
    takes_restoring] at taken
  rcases taken with ⟨value, given, ⟨items, listed, turns, middle, rounds, rfl, rfl⟩ |
    ⟨cause, failed, rfl, rfl, rfl⟩⟩ |
    ⟨stop, failed, rfl, rfl, rfl⟩
  · have sound :=
      Value.loopItems_wellKeyed (spelled.evaluate_wellKeyed keyed value given) items listed
    have unset : ∀ name expr q, Stmt.loop item collection body p ≠ .set name expr q := by
      rintro _ _ _ ⟨⟩
    have each : ∀ round ∈ items,
      Flows setup stmts (bind item round >>= fun _ => execAll setup body) :=
      fun round among => (flows_bind member rfl unset (sound round among)).thens inner
    have flow := (flows_forEach each).taken rounds keyed
    rw [sight_within]
    exact .loops member flow
  · exact Flow.fails_otherwise member (loopItems_kind failed ▸ nofun)
  · exact .fails member fun name bound unbound =>
      ⟨collection, List.mem_cons_self, Expr.misses_of_evaluate failed unbound⟩

/-- Variables flow through a statement as through all statements in it. -/
theorem flows_exec {named names field : String → Prop} {stmt : Stmt}
    (each : stmt.Each named (Expr.Spelled names field)) (subset : stmt.flatten ⊆ stmts) :
    Flows setup stmts (exec setup stmt) := by
  induction each with
  | say said =>
    rw [exec]
    exact flows_recorded (subset List.mem_cons_self) (flows_say (subset List.mem_cons_self))
  | ask _ chosen _ =>
    rw [exec]
    exact flows_recorded (subset List.mem_cons_self) (flows_ask (subset List.mem_cons_self) chosen)
  | set _ given =>
    rw [exec]
    exact flows_recorded (subset List.mem_cons_self) (flows_set (subset List.mem_cons_self) given)
  | call given _ =>
    rw [exec]
    exact flows_recorded (subset List.mem_cons_self) (flows_call (subset List.mem_cons_self) given)
  | @branch condition thenBody elseBody p _ _ _ ihThen ihElse =>
    rw [Stmt.flatten] at subset
    have inside := (List.cons_subset.mp subset).2
    refine flows_branch (subset List.mem_cons_self) (flows_execAll fun inner member => ?_) ?_
    · refine ihThen inner member fun part among =>
        inside (List.mem_append_left _ (Stmt.mem_flattenAll.mpr ⟨inner, member, among⟩))
    · cases elseBody with
      | none =>
        rw [execElse]
        exact flows_pure
      | some body =>
        rw [execElse]
        refine flows_execAll fun inner member => ihElse body rfl inner member fun part among => ?_
        refine inside (List.mem_append_right _ ?_)
        rw [Stmt.flattenElse]
        exact Stmt.mem_flattenAll.mpr ⟨inner, member, among⟩
  | @loop item collection body p _ collected _ ih =>
    rw [Stmt.flatten] at subset
    refine flows_loop (subset List.mem_cons_self) collected (flows_execAll fun inner member => ?_)
    exact ih inner member fun part among =>
      (List.cons_subset.mp subset).2 (Stmt.mem_flattenAll.mpr ⟨inner, member, among⟩)
  | remember _ given =>
    rw [exec]
    exact flows_remember (subset List.mem_cons_self) given
  | recollect _ _ =>
    rw [exec]
    exact flows_recorded (subset List.mem_cons_self) (flows_recollect (subset List.mem_cons_self))

/-- Variables flow through the body of a handler as through its statements. -/
theorem flows_handler {named names field : String → Prop} {handler : Handler}
    (each : handler.Each named (Expr.Spelled names field)) :
    Flows setup handler.statements (execAll setup handler.body) :=
  flows_execAll fun stmt member => flows_exec (each.body stmt member) fun _ inside =>
    Stmt.mem_flattenAll.mpr ⟨stmt, member, inside⟩

end Run

end BotScript
