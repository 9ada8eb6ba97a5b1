import BotScript.Proofs.Run.Statements

/-! Statements with their records. A statement adds one record, around the records of what ran
inside it, and tells the host of it when it has ended; so a block adds a trail that goes through its
statements in order. -/

namespace BotScript

/-- The kind that records name for a statement. -/
def Stmt.stepKind : Stmt → StepKind
  | say .. => .say
  | ask .. => .ask
  | set .. => .set
  | call .. => .call
  | branch .. => .branch
  | loop .. => .loop
  | remember .. => .remember
  | recollect .. => .recollect

mutual

/-- A trail goes through the statements of a block, from the first one on. -/
inductive Trail.Follows : List Stmt → Trail → Prop
  | stop (body : List Stmt) : Follows body .done
  | step {stmt : Stmt} {rest : List Stmt} {record : Step} {deeds : Deeds} {inside later : Trail}
      (kind : record.kind = stmt.stepKind) (line : record.line = stmt.position.line)
      (inner : Within stmt inside) (further : Follows rest later) :
      Follows (stmt :: rest) (.step record deeds inside later)

/-- A trail is what can run inside a statement: a part of one branch, or rounds of a loop. -/
inductive Trail.Within : Stmt → Trail → Prop
  | nothing (stmt : Stmt) : Within stmt .done
  | thenBody {condition : Expr} {thenBody : List Stmt} {elseBody : Option (List Stmt)}
      {p : Position} {inside : Trail} (body : Follows thenBody inside) :
      Within (.branch condition thenBody elseBody p) inside
  | elseBody {condition : Expr} {thenBody elseBody : List Stmt} {p : Position} {inside : Trail}
      (body : Follows elseBody inside) :
      Within (.branch condition thenBody (some elseBody) p) inside
  | round {item : String} {collection : Expr} {body : List Stmt} {p : Position} {first more : Trail}
      (now : Follows body first) (next : Within (.loop item collection body p) more) :
      Within (.loop item collection body p) (first.append more)

end

namespace Trail

/-- Only branches and loops have something inside. -/
theorem Within.composite {stmt : Stmt} {inside : Trail} (inner : Within stmt inside) :
    inside = .done ∨ stmt.stepKind = .branch ∨ stmt.stepKind = .loop := by
  cases inner with
  | nothing => exact .inl rfl
  | thenBody | elseBody => exact .inr (.inl rfl)
  | round => exact .inr (.inr rfl)

end Trail

namespace Run

open Exchange

variable {setup : Setup} {old : List Step} {kind : StepKind} {p : Position}
  {before after : RunState}
  {asked : List Exchange} {result : Except Stop Unit}

theorem Leaves.quiet {state : RunState} (quiet : Quiet asked) :
    Leaves state asked state [] .none := by
  constructor <;> simp [Deeds.none, quiet.told, quiet.runs, quiet.calls]

/-- Opening a record leaves nothing behind that can be seen from outside. -/
theorem Leaves.unopened {steps : List Step} {records : List Step} {deeds : Deeds}
    (leaves : Leaves { before with steps } asked after records deeds) :
    Leaves before asked after records deeds :=
  ⟨leaves.told, leaves.transcript, leaves.output, leaves.runs, leaves.calls, leaves.bot,
    leaves.handler⟩

theorem checkpoint_reaches {deadline : Option Deadline}
    (reached : Reaches (checkpoint deadline) before asked result after) :
    Quiet asked ∧ after = before ∧ (result = .ok () ∨ ∃ fault, result = .error (.fault fault)) := by
  simp only [checkpoint, reaches_host_bind, reaches_checked] at reached
  obtain ⟨moment, front, back, observed, ⟨rfl, rfl, rfl⟩, rfl⟩ := reached
  obtain rfl := Dialogue.path_query_iff.mp observed
  refine ⟨quiet_observe moment, rfl, ?_⟩
  cases checkMoment deadline moment .betweenStatements with
  | ok _ => exact .inl rfl
  | error cause => exact .inr ⟨_, rfl⟩

/-- The end of a statement: its record, where there is one, is completed, told in the journal and
shown to the host. -/
theorem finish_course {index : Nat} {outcome : StepOutcome}
    (reached : Reaches (finish index outcome) before asked result after) :
    result = .ok () ∧ ∃ news,
      after = { before with
        steps := before.steps.modify index fun step => { step with outcome }
        journal := before.journal ++ news } ∧
      ((before.steps[index]? = none ∧ asked = [] ∧ news = []) ∨
        ∃ record told, before.steps[index]? = some record ∧
          asked = [⟨.stepEnded { record with outcome }, told⟩] ∧
          news = .stepEnded record.kind (outcome = .ok) :: if told then []
            else [.listenerRaised]) := by
  simp only [finish, reaches_modify_bind, reaches_get_bind, List.getElem?_modify_eq] at reached
  cases found : before.steps[index]? with
  | none =>
    simp only [found, Option.map_eq_map, Option.map_none] at reached
    obtain ⟨rfl, rfl, rfl⟩ := reaches_pure.mp reached
    exact ⟨rfl, [], by simp, .inl ⟨rfl, rfl, rfl⟩⟩
  | some record =>
    simp only [found, Option.map_eq_map, Option.map_some, tell, reaches_modify_bind,
      reaches_host_bind] at reached
    obtain ⟨told, front, back, path, rest, rfl⟩ := reached
    obtain rfl := Dialogue.path_query_iff.mp path
    cases told with
    | true =>
      obtain ⟨rfl, rfl, rfl⟩ := reaches_pure.mp rest
      exact ⟨rfl, _, rfl, .inr ⟨record, true, rfl, rfl, rfl⟩⟩
    | false =>
      obtain ⟨rfl, rfl, rfl⟩ := reaches_modify.mp rest
      exact ⟨rfl, _, by simp, .inr ⟨record, false, rfl, rfl, rfl⟩⟩

/-- The end of a statement completes its record and tells the host of it. -/
theorem finish_reaches {summary : List (String × Value)} {back : List Step} {outcome : StepOutcome}
    (begun : before.steps = opened old kind p summary ++ back)
    (reached : Reaches (finish old.length outcome) before asked result after) :
    result = .ok () ∧ after.steps = old ++ ⟨old.length, kind, p.line, summary, outcome⟩ :: back ∧
      Leaves before asked after [⟨old.length, kind, p.line, summary, outcome⟩] .none := by
  obtain ⟨ended, news, rfl, ⟨nowhere, -⟩ | ⟨record, told, found, rfl, -⟩⟩ := finish_course reached
  · rw [begun, opened_append_getElem?] at nowhere
    cases nowhere
  · rw [begun, opened_append_getElem?] at found
    obtain rfl := Option.some.inj found
    refine ⟨ended, ?_, by constructor <;> simp [Deeds.none] <;> rfl⟩
    rw [begun]
    exact finish_opened old kind p summary outcome back

/-- The statement of a record fills it, and what runs inside is what can run inside some
statement. -/
def Performs (setup : Setup) (kind : StepKind) (inner : Trail → Prop) (statement : Nat → Run Unit) :
    Prop :=
  ∀ (old : List Step) (p : Position) (before : RunState) (asked : List Exchange)
    (result : Except Stop Unit) (after : RunState),
    before.steps = opened old kind p [] →
    Reaches (statement old.length) before asked result after →
    ∃ summary deeds inside,
      Fills setup old kind p before asked result after summary deeds inside ∧ inner inside

theorem IsLeaf.performs {statement : Nat → Run Unit} (leaf : IsLeaf setup kind statement)
    (stmt : Stmt) :
    Performs setup kind (Trail.Within stmt) statement := by
  intro old p before asked result after begun reached
  obtain ⟨summary, deeds, fills⟩ := leaf old p before asked result after begun reached
  exact ⟨summary, deeds, .done, fills, .nothing stmt⟩

private theorem outcomeOf_ok {result : Except Stop Unit} (well : outcomeOf p result = .ok) :
    result = .ok () := by
  match result with
  | .ok () => rfl
  | .error (.fault fault) =>
    simp only [outcomeOf, StepOutcome.ofFault] at well
    split at well <;> cases well
  | .error (.escape _) => cases well

/-- A record ends as its statement did. -/
private theorem recorded_ends {summary : List (String × Value)} {deeds : Deeds} {inside : Trail}
    (ends : inside.Ends result) :
    (Trail.step ⟨old.length, kind, p.line, summary, outcomeOf p result⟩ deeds inside .done).Ends
      (result.mapError (Stop.locate p)) := by
  match result with
  | .ok () => exact Trail.succeeds_step_iff.mpr ⟨rfl, ends, Trail.succeeds_done⟩
  | .error (.fault fault) =>
    exact .within rfl (Trail.located_line fault p) (Trail.Fails.locate ends p)
  | .error (.escape _) => trivial

theorem begin_reaches {result : Except Stop Nat}
    (reached : Reaches (begin kind p) before asked result after) :
    asked = [] ∧ result = .ok before.steps.length ∧
    after = { before with steps := opened before.steps kind p [] } := by
  simp only [begin, reaches_get_bind, reaches_modify_bind] at reached
  exact reaches_pure.mp reached

/-- The course of a statement with its record: the run may not go on to it, or the statement runs
between the start and the end of its record. -/
theorem recorded_reaches {deadline : Option Deadline} {statement : Nat → Run Unit}
    (reached : Reaches (recorded deadline kind p statement) before asked result after) :
    ((∃ fault, result = .error (.fault fault)) ∧
    Reaches (checkpoint deadline) before asked result after ∧ after = before) ∨
      ∃ front during back kept middle, asked = front ++ (during ++ back) ∧
        Reaches (checkpoint deadline) before front (.ok ()) before ∧
        Reaches (statement before.steps.length)
          { before with steps := opened before.steps kind p [] } during kept middle ∧
        Reaches (finish before.steps.length (outcomeOf p kept)) middle back (.ok ()) after ∧
        result = kept.mapError (Stop.locate p) := by
  rcases reaches_bind.mp reached with ⟨⟨⟩, front, _, _, first, rest, rfl⟩ | ⟨stop, first, rfl⟩
  · obtain ⟨-, rfl, -⟩ := checkpoint_reaches first
    rcases reaches_bind.mp rest with ⟨index, _, _, _, begun, counted, rfl⟩ | ⟨_, begun, -⟩
    · obtain ⟨rfl, same, rfl⟩ := begin_reaches begun
      obtain rfl := Except.ok.inj same
      obtain ⟨kept, during, middle, _, performed, ending, rfl⟩ := reaches_attempt_bind.mp counted
      rcases reaches_bind.mp ending with ⟨⟨⟩, back, _, _, finished, passed, rfl⟩ | ⟨_, finished, -⟩
      · obtain ⟨rfl, rfl, rfl⟩ := reaches_evaluated.mp passed
        exact .inr ⟨front, during, back, kept, middle, by simp, first, performed, finished, rfl⟩
      · cases (finish_course finished).1
    · cases (begin_reaches begun).2.1
  · obtain ⟨-, rfl, impossible | ⟨fault, same⟩⟩ := checkpoint_reaches first
    · cases impossible
    · obtain rfl := Except.error.inj same
      exact .inl ⟨⟨fault, rfl⟩, first, rfl⟩

/-- A statement with its record adds that record, around the records of what ran inside, unless the
run may not go on to it. -/
theorem recorded_adds {inner : Trail → Prop} {statement : Nat → Run Unit}
    (performs : Performs setup kind inner statement)
    (reached : Reaches (recorded setup.deadline kind p statement) before asked result after) :
    ∃ trail, Adds setup before asked after trail ∧ trail.Ends result ∧
      ((trail = .done ∧ ∃ stop, result = .error stop) ∨
        ∃ record deeds inside, trail = .step record deeds inside .done ∧ record.kind = kind ∧
          record.line = p.line ∧
          inner inside) := by
  rcases recorded_reaches reached with ⟨⟨fault, rfl⟩, first, rfl⟩ |
    ⟨front, during, telling, kept, middle, rfl, first, performed, finished, rfl⟩
  · exact ⟨.done, ⟨by simp [Trail.starts], rfl, .quiet (checkpoint_reaches first).1, trivial⟩,
      .between Trail.succeeds_done, .inl ⟨rfl, _, rfl⟩⟩
  · obtain ⟨summary, deeds, inside, fills, inner⟩ := performs _ p _ during kept middle rfl performed
    obtain ⟨-, steps, leaves⟩ := finish_reaches fills.steps finished
    refine ⟨.step ⟨before.steps.length, kind, p.line, summary, outcomeOf p kept⟩ deeds inside .done,
      ⟨?_, ?_, ?_, ?_⟩, recorded_ends fills.ends, .inr ⟨_, _, _, rfl, rfl, rfl, inner⟩⟩
    · simp [Trail.starts, steps]
    · have numbered := fills.numbered
      unfold Trail.NumberedFrom at numbered ⊢
      simp [Trail.starts, numbered, List.range'_succ]
    · have whole :=
        (Leaves.quiet (checkpoint_reaches first).1).trans (fills.leaves.unopened.trans leaves)
      simpa [Trail.ends, Trail.total] using whole
    · exact ⟨fills.accounts _ rfl rfl outcomeOf_ok, fills.accounted, trivial⟩

/-! ## Statements that contain others -/

theorem Adds.rebound {env : Environment} {trail : Trail}
    (adds : Adds setup { before with env } asked after trail) :
    Adds setup before asked after trail :=
  ⟨adds.steps, adds.numbered,
    ⟨adds.leaves.told, adds.leaves.transcript, adds.leaves.output, adds.leaves.runs,
      adds.leaves.calls,
      adds.leaves.bot, adds.leaves.handler⟩,
    adds.accounted⟩

theorem Adds.restored {env : Environment} {trail : Trail}
    (adds : Adds setup before asked after trail) :
    Adds setup before asked { after with env } trail :=
  ⟨adds.steps, adds.numbered,
    ⟨adds.leaves.told, adds.leaves.transcript, adds.leaves.output, adds.leaves.runs,
      adds.leaves.calls,
      adds.leaves.bot, adds.leaves.handler⟩,
    adds.accounted⟩

/-- What runs inside a branch or a loop fills its record. -/
theorem Adds.fills {summary : List (String × Value)} {trail : Trail}
    (composite : kind = .branch ∨ kind = .loop)
    (adds : Adds setup { before with steps := opened old kind p summary } asked after trail)
    (ends : trail.Ends result) :
    Fills setup old kind p before asked result after summary .none trail where
  steps := adds.steps
  numbered := by
    have numbered := adds.numbered
    simpa [opened] using numbered
  leaves := adds.leaves.unopened
  accounts := by
    intro record ofKind _ _
    refine ⟨.never fun _ => ?_, .never fun _ => ?_, .never fun _ => ?_⟩ <;>
      rcases composite with rfl | rfl <;>
      simp [Step.speaks, Step.runsTool, Step.usesMemory, ofKind]
  accounted := adds.accounted
  ends := ends

/-- A part of a run adds a trail of a certain shape. -/
def AddsTrail (setup : Setup) (shape : Trail → Prop) (part : Run Unit) : Prop :=
  ∀ (before : RunState) (asked : List Exchange) (result : Except Stop Unit) (after : RunState),
    Reaches part before asked result after → ∃ trail,
      Adds setup before asked after trail ∧ trail.Ends result ∧
      shape trail

theorem branch_performs {condition : Expr} {thenBody : List Stmt} {elseBody : Option (List Stmt)}
    (thenAdds : AddsTrail setup (Trail.Follows thenBody) (execAll setup thenBody))
    (elseAdds : ∀ body, elseBody = some body →
      AddsTrail setup (Trail.Follows body) (execAll setup body))
    (position : Position) :
    Performs setup .branch (Trail.Within (.branch condition thenBody elseBody position))
      (fun index => do
      let holds ← evaluated (condition.condition (← env) "Condition of 'if'")
      summarize index [("condition", .boolean holds), ("branch", .text (branchName holds elseBody))]
      if holds then execAll setup thenBody else execElse setup elseBody) := by
  intro old p before asked result after begun reached
  simp only [summarize, reaches_env_bind, reaches_evaluated_bind, reaches_modify_bind, begun,
    summarize_opened] at reached
  rcases reached with ⟨holds, -, reached⟩ | ⟨stop, -, rfl, rfl, rfl⟩
  · cases holds with
    | true =>
      obtain ⟨trail, adds, ends, follows⟩ := thenAdds _ asked result after reached
      exact ⟨_, _, trail, adds.fills (.inl rfl) ends, .thenBody follows⟩
    | false =>
      cases elseBody with
      | none =>
        obtain ⟨rfl, rfl, rfl⟩ := reaches_pure.mp reached
        exact ⟨_, _, .done, (Adds.refl setup _).fills (.inl rfl) Trail.succeeds_done, .nothing _⟩
      | some body =>
        obtain ⟨trail, adds, ends, follows⟩ := elseAdds body rfl _ asked result after reached
        exact ⟨_, _, trail, adds.fills (.inl rfl) ends, .elseBody follows⟩
  · obtain ⟨summary, deeds, fills⟩ := fills_idle begun (.refl _)
    exact ⟨summary, deeds, .done, fills, .nothing _⟩

/-- Rounds of a loop, one after the other. -/
theorem forEach_addsTrail {item : String} {collection : Expr} {body : List Stmt}
    {position : Position} (bodyAdds : AddsTrail setup (Trail.Follows body) (execAll setup body))
    (items : List Value) :
    AddsTrail setup (Trail.Within (.loop item collection body position))
      (forEach (fun value => do bind item value; execAll setup body) items) := by
  induction items with
  | nil =>
    intro before asked result after reached
    obtain ⟨rfl, rfl, rfl⟩ := reaches_pure.mp reached
    exact ⟨.done, .refl setup _, Trail.succeeds_done, .nothing _⟩
  | cons value rest ih =>
    intro before asked result after reached
    rcases reaches_bind.mp reached with ⟨⟨⟩, front, middle, back, round, more, rfl⟩ |
      ⟨stop, round, rfl⟩
    · obtain ⟨first, adds, ends, follows⟩ :=
        bodyAdds _ front _ middle (reaches_modify_bind.mp round)
      obtain ⟨later, adds', ends', within⟩ := ih middle back result after more
      exact ⟨first.append later, adds.rebound.trans adds', .after ends ends', .round follows within⟩
    · obtain ⟨first, adds, ends, follows⟩ := bodyAdds _ asked _ after (reaches_modify_bind.mp round)
      refine ⟨first, adds.rebound, ends, ?_⟩
      have last : Trail.Within (.loop item collection body position) (first.append .done) :=
        .round follows (.nothing _)
      rwa [Trail.append_done] at last

theorem loop_performs {item : String} {collection : Expr} {body : List Stmt} {position : Position}
    (bodyAdds : AddsTrail setup (Trail.Follows body) (execAll setup body)) :
    Performs setup .loop (Trail.Within (.loop item collection body position)) (fun index => do
      let items ← checked (← evaluated (collection.evaluate (← env))).loopItems
      summarize index [("item", .text item), ("count", .integer items.length)]
      restoring item (forEach (fun value => do bind item value; execAll setup body) items)) := by
  intro old p before asked result after begun reached
  simp only [summarize, restoring, reaches_env_bind, reaches_evaluated_bind, reaches_checked_bind,
    reaches_modify_bind, reaches_attempt_bind, reaches_inside, reaches_evaluated, begun,
    summarize_opened] at reached
  rcases reached with
    ⟨value, -, ⟨items, -, kept, front, middle, back, rounds, ⟨rfl, rfl, rfl⟩, rfl⟩ |
    ⟨cause, -, rfl, rfl, rfl⟩⟩ | ⟨stop, -, rfl, rfl, rfl⟩
  · obtain ⟨trail, adds, ends, within⟩ :=
      forEach_addsTrail bodyAdds items _ front result middle rounds
    rw [List.append_nil]
    exact ⟨_, _, trail, adds.restored.fills (.inr rfl) ends, within⟩
  all_goals
    obtain ⟨summary, deeds, fills⟩ := fills_idle begun (.refl _)
    exact ⟨summary, deeds, .done, fills, .nothing _⟩

/-- One statement in front of a block. -/
private theorem cons_follows {stmt : Stmt} {rest : List Stmt}
    (first : ∀ before asked result after, Reaches (exec setup stmt) before asked result after →
      ∃ trail, Adds setup before asked after trail ∧ trail.Ends result ∧
        ((trail = .done ∧ ∃ stop, result = .error stop) ∨
          ∃ record deeds inside, trail = .step record deeds inside .done ∧
            record.kind = stmt.stepKind ∧
            record.line = stmt.position.line ∧ Trail.Within stmt inside))
    (others : AddsTrail setup (Trail.Follows rest) (execAll setup rest)) :
    AddsTrail setup (Trail.Follows (stmt :: rest)) (execAll setup (stmt :: rest)) := by
  intro before asked result after reached
  rw [execAll] at reached
  rcases reaches_bind.mp reached with ⟨⟨⟩, front, middle, back, now, more, rfl⟩ | ⟨stop, now, rfl⟩
  · obtain ⟨trail, adds, ends, ⟨-, _, impossible⟩ |
        ⟨record, deeds, inside, rfl, kind, line, within⟩⟩ :=
      first before front _ middle now
    · cases impossible
    · obtain ⟨later, adds', ends', follows⟩ := others middle back result after more
      exact ⟨_, adds.trans adds', .after ends ends', .step kind line within follows⟩
  · obtain ⟨trail, adds, ends, ⟨rfl, -⟩ | ⟨record, deeds, inside, rfl, kind, line, within⟩⟩ :=
      first before asked _ after now
    · exact ⟨.done, adds, ends, .stop _⟩
    · exact ⟨_, adds, ends, .step kind line within (.stop rest)⟩

mutual

/-- A statement adds its record, unless the run may not go on to it. -/
theorem exec_adds (setup : Setup) (stmt : Stmt) (before : RunState) (asked : List Exchange)
    (result : Except Stop Unit) (after : RunState)
    (reached : Reaches (exec setup stmt) before asked result after) :
    ∃ trail, Adds setup before asked after trail ∧ trail.Ends result ∧
      ((trail = .done ∧ ∃ stop, result = .error stop) ∨
        ∃ record deeds inside, trail = .step record deeds inside .done ∧
          record.kind = stmt.stepKind ∧
          record.line = stmt.position.line ∧ Trail.Within stmt inside) := by
  match stmt with
  | .say expr p =>
    rw [exec] at reached
    exact recorded_adds ((say_isLeaf setup expr).performs _) reached
  | .ask prompt options p =>
    rw [exec] at reached
    exact recorded_adds ((ask_isLeaf setup prompt options).performs _) reached
  | .set name expr p =>
    rw [exec] at reached
    exact recorded_adds ((set_isLeaf setup name expr).performs _) reached
  | .call tool args bindAs p =>
    rw [exec] at reached
    exact recorded_adds ((call_isLeaf setup tool args bindAs).performs _) reached
  | .branch condition thenBody elseBody p =>
    rw [exec] at reached
    exact recorded_adds
      (branch_performs (execAll_follows setup thenBody) (execElse_follows setup elseBody) p) reached
  | .loop item collection body p =>
    rw [exec] at reached
    exact recorded_adds (loop_performs (execAll_follows setup body)) reached
  | .remember key value mode p =>
    rw [exec] at reached
    exact recorded_adds ((remember_isLeaf setup key value mode).performs _) reached
  | .recollect key bindAs p =>
    rw [exec] at reached
    exact recorded_adds ((recollect_isLeaf setup key bindAs).performs _) reached

/-- A block adds a trail that goes through its statements. -/
theorem execAll_follows (setup : Setup) (body : List Stmt) :
    AddsTrail setup (Trail.Follows body) (execAll setup body) := by
  match body with
  | [] =>
    intro before asked result after reached
    rw [execAll] at reached
    obtain ⟨rfl, rfl, rfl⟩ := reaches_pure.mp reached
    exact ⟨.done, .refl setup _, Trail.succeeds_done, .stop []⟩
  | stmt :: rest => exact cons_follows (exec_adds setup stmt) (execAll_follows setup rest)

/-- So does the block of a branch that may be missing. -/
theorem execElse_follows (setup : Setup) (elseBody : Option (List Stmt)) :
    ∀ body, elseBody = some body → AddsTrail setup (Trail.Follows body) (execAll setup body) := by
  match elseBody with
  | none => exact fun _ impossible => nomatch impossible
  | some body =>
    intro taken same
    obtain rfl := Option.some.inj same
    exact execAll_follows setup body

end

end Run

end BotScript
