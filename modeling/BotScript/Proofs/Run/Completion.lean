import BotScript.Proofs.Run.Detached
import BotScript.Proofs.Run.Execution
import BotScript.Proofs.Tool.Verdict

/-! Parts of runs with one host. When and with which variables a part comes to its end is said by
one rule for each building block; for a statement that calls a tool and binds the answer, it is
decided by what the tool does. -/

namespace BotScript.Run

variable {α σ : Type} {setup : Setup} {before middle : RunState} {host : Host σ} {world world' : σ}
  {env : Environment}

/-- A part of a run comes to its end with a host and leaves certain variables. -/
def Completes (part : Run Unit) (before : RunState) (host : Host σ) (world : σ)
    (env : Environment) : Prop :=
  ∃ after last, (part.outcome before).run host world = ((.ok (), after), last) ∧ after.env = env

theorem completes_modify {f : RunState → RunState} :
    Completes (modify f) before host world env ↔ (f before).env = env := by
  have ran : ((modify f : Run Unit).outcome before).run host world = ((.ok (), f before), world) :=
    rfl
  simp [Completes, ran]

theorem completes_evaluated {result : Except Stop Unit} :
    Completes (evaluated result) before host world env ↔ result = .ok () ∧ before.env = env := by
  have ran : ((evaluated result).outcome before).run host world = ((result, before), world) := by
    cases result <;> rfl
  simp [Completes, ran]

/-! ## What comes behind a first step -/

/-- Behind a part that is done, the run goes on if the part did not stop it. -/
theorem completes_behind {part : Run α} {next : α → Run Unit} {result : Except Stop α}
    (ran : (part.outcome before).run host world = ((result, middle), world')) :
    Completes (part >>= next) before host world env ↔
      ∃ a, result = .ok a ∧ Completes (next a) middle host world' env := by
  rw [Completes, outcome_bind, Dialogue.run_bind, ran]
  cases result with
  | ok a => simp [Completes]
  | error stop => simp

theorem completes_modify_bind {f : RunState → RunState} {next : PUnit → Run Unit} :
    Completes (modify f >>= next) before host world env ↔
      Completes (next ⟨⟩) (f before) host world env :=
  .rfl

theorem completes_env_bind {next : Environment → Run Unit} :
    Completes (Run.env >>= next) before host world env ↔
      Completes (next before.env) before host world env :=
  .rfl

theorem completes_evaluated_bind {value : Except Stop α} {next : α → Run Unit} :
    Completes (evaluated value >>= next) before host world env ↔
      ∃ a, value = .ok a ∧ Completes (next a) before host world env :=
  completes_behind (by cases value <;> rfl)

theorem completes_checked_bind {value : Except Cause α} {next : α → Run Unit} :
    Completes (checked value >>= next) before host world env ↔
      ∃ a, value = .ok a ∧ Completes (next a) before host world env := by
  have ran : ((checked value).outcome before).run host world =
      ((value.mapError fun cause => .fault (.of cause), before), world) := by
    cases value <;> rfl
  rw [completes_behind ran]
  cases value <;> simp [mapError_ok, mapError_error]

/-! ## Records -/

theorem checkpoint_run (deadline : Option Deadline) :
    ((checkpoint deadline).outcome before).run host world =
      (((checkMoment deadline (host.answer .observe world).1 .betweenStatements).mapError
        fun cause => .fault (.of cause),
        before), (host.answer .observe world).2) := by
  rw [checkpoint, outcome_bind, outcome_host]
  change ((checked (checkMoment deadline (host.answer .observe world).1 .betweenStatements)).outcome
    before).run host _ = _
  cases checkMoment deadline (host.answer .observe world).1 .betweenStatements <;> rfl

theorem finish_completes (index : Nat) (outcome : StepOutcome) :
    Completes (finish index outcome) before host world before.env := by
  have path := Dialogue.run_path host ((finish index outcome).outcome before) world
  rcases ran : ((finish index outcome).outcome before).run host world with ⟨⟨result, after⟩, last⟩
  rw [ran] at path
  have reached : Reaches (finish index outcome) before _ result after := path
  obtain ⟨rfl, news, rfl, -⟩ := finish_course reached
  exact ⟨_, _, ran, rfl⟩

/-- A statement with its record comes to its end when the run may go on to it and the statement
itself does. -/
theorem recorded_completes {deadline : Option Deadline} {kind : StepKind} {p : Position}
    {statement : Nat → Run Unit} :
    Completes (recorded deadline kind p statement) before host world env ↔
      ¬(host.answer .observe world).1.Over deadline ∧
        Completes (statement before.steps.length)
          { before with steps := opened before.steps kind p [] } host
          (host.answer .observe world).2 env := by
  rw [recorded, completes_behind (checkpoint_run deadline)]
  by_cases late : (host.answer .observe world).1.Over deadline
  · obtain ⟨cause, stopped⟩ := checkMoment_of_over late .betweenStatements
    simp [stopped, late, mapError_error]
  · rw [checkMoment_of_not_over late, mapError_ok, and_iff_right late]
    have begun : ((begin kind p).outcome before).run host (host.answer .observe world).2 =
        ((.ok before.steps.length, { before with steps := opened before.steps kind p [] }),
          (host.answer .observe world).2) := rfl
    rcases ran : ((statement before.steps.length).outcome
      { before with steps := opened before.steps kind p [] }).run host
      (host.answer .observe world).2 with ⟨⟨kept, middle⟩, world'⟩
    have attempted : ((attempt (statement before.steps.length)).outcome
        { before with steps := opened before.steps kind p [] }).run host
        (host.answer .observe world).2 = ((.ok kept, middle), world') := by
      rw [outcome_attempt, Dialogue.run_bind, ran]
      rfl
    -- whatever the host does when it is told that the statement ended, the run goes on
    have ends : Completes (finish before.steps.length (outcomeOf p kept)) middle host
      world' middle.env :=
      finish_completes _ _
    obtain ⟨after, last, finished, same⟩ := ends
    simp only [completes_behind begun, completes_behind attempted, completes_behind finished,
      Except.ok.injEq, exists_eq_left', completes_evaluated, same]
    cases kept <;> simp [Completes, ran, mapError_ok, mapError_error]

/-! ## Calls -/

/-- Calling a tool comes to what the call comes to, and changes nothing but the journal. -/
theorem callTool_run (setup : Setup) (call : ToolCall) (before : RunState) (host : Host σ)
    (world : σ) :
    ∃ journal last, ((callTool setup call).outcome before).run host world =
      ((((call.perform setup.deadline setup.settings.toolTimeout).run host world).1.result.mapError
        Stop.fault, { before with journal }), last) := by
  rw [callTool, tell, outcome_bind]
  change ∃ journal last, ((Run.host _ >>= _ : Run ToolResult).outcome
    { before with journal := before.journal ++ [call.announcement setup.metadata.runId] }).run
      host world = _
  rw [outcome_bind, outcome_host, Dialogue.run_bind, Dialogue.run_bind]
  rcases (call.perform setup.deadline setup.settings.toolTimeout).run host world with
    ⟨⟨result, failure, output⟩, last⟩
  cases result <;> exact ⟨_, _, rfl⟩

/-- A `call` that binds its answer comes to its end when its tool is there, its arguments have
values and the tool answers; then the answer is bound. -/
theorem execCall_completes {name target : String} {args : List (String × Expr)} {index : Nat} :
    Completes (execCall setup name args (some target) index) before host world env ↔
      ∃ tool, setup.catalogue.require name = .ok tool ∧
        ∃ values, Expr.evaluateEntries before.env args = .ok values ∧
          ∃ answer, ((ToolCall.perform ⟨tool, name, Entries.ofList values⟩ setup.deadline
              setup.settings.toolTimeout).run host world).1.result = .ok answer ∧
            before.env.bind target answer.value = env := by
  simp only [execCall, summarize, noteCall, completes_env_bind, completes_evaluated_bind,
    completes_checked_bind, completes_modify_bind]
  refine exists_congr fun tool => and_congr_right fun _ => exists_congr fun values =>
    and_congr_right fun _ => ?_
  have ran := fun state => callTool_run setup ⟨tool, name, Entries.ofList values⟩ state host world
  obtain ⟨journal, last, called⟩ := ran _
  rw [completes_behind called]
  cases ((ToolCall.perform ⟨tool, name,
    Entries.ofList values⟩ setup.deadline setup.settings.toolTimeout).run host
    world).1.result <;> simp [bind, completes_modify, mapError_ok, mapError_error]

end BotScript.Run
