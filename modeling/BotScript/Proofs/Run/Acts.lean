import BotScript.Proofs.Evaluation.Kinds
import BotScript.Proofs.Host.Raised
import BotScript.Proofs.Run.Course
import BotScript.Proofs.Run.Totality

/-! The statements that a run has started. Each of them has a record and has left some entries in
the transcript; a call whose tool is not in the catalogue has failed before anything else, and no
other call fails so on its own. -/

namespace BotScript

/-- A statement that was started: its record, the entries of the transcript that it has left itself,
what the host was asked while it ran, and how it ended. -/
structure Act where
  stmt : Stmt
  record : Step
  entries : List Utterance
  asked : List Exchange
  result : Except Stop Unit

namespace Act

/-- The record is that of the statement and says how it ended. -/
structure Recorded (act : Act) : Prop where
  kind : act.record.kind = act.stmt.stepKind
  line : act.record.line = act.stmt.position.line
  outcome : act.record.outcome = Run.outcomeOf act.stmt.position act.result

/-- The call of a tool was refused because the catalogue does not have the tool. Nothing was asked,
noted or evaluated: the record names the tool and the variable for its answer alone. -/
structure Refused (catalogue : Catalogue) (tool : String) (bindAs : Option String) (act : Act) :
    Prop where
  result : act.result = .error (.fault (.of (.unknownTool tool catalogue.names)))
  summary : act.record.summary = [("tool", .text tool), ("bind_as", .ofText? bindAs)]
  entries : act.entries = []
  asked : act.asked = []

/-- That a tool is unknown is never why the statement failed, unless the host itself raised that
failure. -/
def Served (act : Act) : Prop :=
  ∀ stop name known, act.result = .error stop → stop.cause? = some (.unknownTool name known) →
    Exchange.Raised act.asked (.unknownTool name known)

/-- The calls of tools that the catalogue does not have are refused, and no others. -/
def Settled (catalogue : Catalogue) (act : Act) : Prop :=
  ∀ tool args bindAs p, act.stmt = .call tool args bindAs p →
    (catalogue.get? tool = none → act.Refused catalogue tool bindAs) ∧
    ((catalogue.get? tool).isSome → act.Served)

/-- Only calls are ever refused. -/
theorem settled_of_kind {catalogue : Catalogue} {act : Act} (other : act.stmt.stepKind ≠ .call) :
    act.Settled catalogue := by
  intro tool args bindAs p same
  rw [same] at other
  exact absurd rfl other

end Act

namespace Run

variable {setup : Setup} {catalogue : Catalogue} {stmts more : List Stmt} {stmt : Stmt}
  {old : List Step} {before middle after : RunState}
  {asked front back : List Exchange} {result : Except Stop Unit} {early late : List Act}

/-- A part of a run has started some statements, one behind the other or inside the other. -/
structure Enacts (catalogue : Catalogue) (stmts : List Stmt) (before : RunState)
    (asked : List Exchange) (after : RunState) (acts : List Act) : Prop where
  steps : after.steps = before.steps ++ acts.map Act.record
  transcript : after.transcript = before.transcript ++ acts.flatMap Act.entries
  during : ∀ act ∈ acts, act.asked <:+: asked
  fair : ∀ act ∈ acts, act.stmt ∈ stmts ∧ act.Recorded ∧ act.Settled catalogue

namespace Enacts

/-- Nothing was started. -/
theorem none (steps : after.steps = before.steps)
    (transcript : after.transcript = before.transcript) :
    Enacts catalogue stmts before asked after [] where
  steps := steps.trans (List.append_nil _).symm
  transcript := transcript.trans (List.append_nil _).symm
  during := List.forall_mem_nil _
  fair := List.forall_mem_nil _

theorem trans (first : Enacts catalogue stmts before front middle early)
    (second : Enacts catalogue stmts middle back after late) :
    Enacts catalogue stmts before (front ++ back) after (early ++ late) where
  steps := by rw [second.steps, first.steps, List.map_append, List.append_assoc]
  transcript := by rw [second.transcript, first.transcript, List.flatMap_append, List.append_assoc]
  during := by
    refine List.forall_mem_append.mpr ⟨fun act member => ?_, fun act member => ?_⟩
    · exact (first.during act member).trans (List.infix_append' [] front back)
    · exact (second.during act member).trans (List.suffix_append front back).isInfix
  fair := List.forall_mem_append.mpr ⟨first.fair, second.fair⟩

theorem mono {acts : List Act} (enacts : Enacts catalogue stmts before asked after acts)
    (subset : stmts ⊆ more) :
    Enacts catalogue more before asked after acts :=
  { enacts with
    fair := fun act member => (enacts.fair act member).imp_left fun among => subset among }

/-- The variables are no part of it. -/
theorem rebound {env : Environment} {acts : List Act}
    (enacts : Enacts catalogue stmts { before with env } asked after acts) :
    Enacts catalogue stmts before asked after acts :=
  ⟨enacts.steps, enacts.transcript, enacts.during, enacts.fair⟩

theorem restored {env : Environment} {acts : List Act}
    (enacts : Enacts catalogue stmts before asked after acts) :
    Enacts catalogue stmts before asked { after with env } acts :=
  ⟨enacts.steps, enacts.transcript, enacts.during, enacts.fair⟩

end Enacts

/-- A part of a run that starts some of these statements, whatever happens. -/
def Enacting (setup : Setup) (stmts : List Stmt) (part : Run Unit) : Prop :=
  ∀ before asked result after, Reaches part before asked result after →
    ∃ acts, Enacts setup.catalogue stmts before asked after acts

/-- What a statement does between the start and the end of its record: it writes the summary, leaves
entries in the transcript and starts the statements inside it. -/
def Fulfils (setup : Setup) (stmt : Stmt) (statement : Nat → Run Unit) : Prop :=
  ∀ (old : List Step) (before : RunState) (asked : List Exchange) (result : Except Stop Unit)
    (after : RunState),
    before.steps = opened old stmt.stepKind stmt.position [] →
    Reaches (statement old.length) before asked result after →
    ∃ summary entries acts,
      Enacts setup.catalogue stmt.flatten
        { before with
          steps := opened old stmt.stepKind stmt.position summary
          transcript := before.transcript ++ entries } asked after acts ∧
      ∀ record : Step, record.summary = summary →
        Act.Settled setup.catalogue ⟨stmt, record, entries, asked, result⟩

theorem mem_flatten_self (stmt : Stmt) : stmt ∈ stmt.flatten := by
  cases stmt <;> simp [Stmt.flatten]

/-- A statement with its record is one that was started, in front of those inside it, unless the run
may not go on to it. -/
theorem Fulfils.recorded {statement : Nat → Run Unit} (inner : Fulfils setup stmt statement) :
    Enacting setup stmt.flatten
      (recorded setup.deadline stmt.stepKind stmt.position statement) := by
  intro before asked result after reached
  rcases recorded_reaches reached with ⟨-, -, rfl⟩ |
    ⟨front, during, telling, kept, middle, rfl, -, performed, finished, -⟩
  · exact ⟨[], .none rfl rfl⟩
  · obtain ⟨summary, entries, acts, enacts, settled⟩ := inner _ _ during kept middle rfl performed
    obtain ⟨-, steps, leaves⟩ := finish_reaches enacts.steps finished
    have whole : during <:+: front ++ (during ++ telling) :=
      List.append_assoc front _ _ ▸ List.infix_append front during telling
    refine ⟨⟨stmt, ⟨before.steps.length, stmt.stepKind, stmt.position.line, summary,
      outcomeOf stmt.position kept⟩, entries,
      during, kept⟩ :: acts, ?_, ?_, ?_, ?_⟩
    · rw [steps]
      rfl
    · rw [leaves.transcript, enacts.transcript]
      simp [Deeds.none]
    · exact List.forall_mem_cons.mpr ⟨whole,
        fun act member => (enacts.during act member).trans whole⟩
    · exact List.forall_mem_cons.mpr
        ⟨⟨mem_flatten_self stmt, ⟨rfl, rfl, rfl⟩, settled _ rfl⟩, enacts.fair⟩

/-! ## Statements that contain no others -/

/-- A statement that contains no others and is no call. -/
theorem IsLeaf.fulfils {statement : Nat → Run Unit} (stmt : Stmt)
    (leaf : IsLeaf setup stmt.stepKind statement) (other : stmt.stepKind ≠ .call) :
    Fulfils setup stmt statement := by
  intro old before asked result after begun reached
  obtain ⟨summary, deeds, fills⟩ := leaf old stmt.position before asked result after begun reached
  have transcript := fills.leaves.transcript
  refine ⟨summary, deeds.transcript, [], .none (fills.steps.trans (List.append_nil _)) ?_, ?_⟩
  · simpa [Deeds.append, Deeds.none, Trail.total] using transcript
  · exact fun record _ => Act.settled_of_kind other

/-- That a tool is unknown is why a call of a tool fails only when the host raised that failure. -/
theorem callTool_raised {call : ToolCall} {stop : Stop} {name : String} {known : List String}
    (reached : Reaches (callTool setup call) before asked (.error stop) after)
    (unknown : stop.cause? = some (.unknownTool name known)) :
    Exchange.Raised asked (.unknownTool name known) := by
  simp only [callTool, tell, reaches_modify_bind, reaches_host_bind] at reached
  obtain ⟨ended, front, back, performed, rest, rfl⟩ := reached
  cases given : ended.result with
  | ok value =>
    rw [given] at rest
    cases (reaches_pure.mp rest).2.1
  | error fault =>
    rw [given] at rest
    obtain ⟨rfl, same, -⟩ := reaches_throw.mp rest
    obtain rfl := Except.error.inj same
    have cause : fault.cause = .unknownTool name known := Option.some.inj unknown
    have raised := ToolCall.perform_raised performed given (by rw [cause]; rfl)
    rw [List.append_nil, ← cause]
    exact raised

/-- A call whose tool the catalogue has evaluates its arguments and calls the tool; neither fails
for an unknown tool on its own. -/
theorem execCall_raised {tool name : String} {known : List String} {registered : Tool}
    {args : List (String × Expr)} {bindAs : Option String} {index : Nat} {stop : Stop}
    (found : setup.catalogue.get? tool = some registered)
    (reached : Reaches (execCall setup tool args bindAs index) before asked (.error stop) after)
    (unknown : stop.cause? = some (.unknownTool name known)) :
    Exchange.Raised asked (.unknownTool name known) := by
  have required : setup.catalogue.require tool = .ok registered := by rw [Catalogue.require, found]
  rcases execCall_reaches reached with ⟨_, values, -, -, called⟩ |
    ⟨rfl, -, _, same, ⟨cause, refused, -⟩ | ⟨_, -, failed⟩⟩
  · rcases reaches_bind.mp called with ⟨answer, front, middle, back, -, bound, rfl⟩ |
      ⟨first, stopped, same⟩
    · cases (bindAnswer_onlyBinds bindAs answer _ _ _ _ bound).2.1
    · obtain rfl := Except.error.inj same
      exact callTool_raised stopped unknown
  · cases required.symm.trans refused
  · obtain rfl := Except.error.inj same
    exact absurd ⟨_, unknown, Bool.false_ne_true⟩
      (Expr.evaluateEntries_native before.env args stop failed)

theorem call_fulfils (setup : Setup) (tool : String) (args : List (String × Expr))
    (bindAs : Option String) (p : Position) :
    Fulfils setup (.call tool args bindAs p) (execCall setup tool args bindAs) := by
  intro old before asked result after begun reached
  cases found : setup.catalogue.get? tool with
  | none =>
    have required : setup.catalogue.require tool =
        .error (.unknownTool tool setup.catalogue.names) := by
      rw [Catalogue.require, found]
    rcases execCall_reaches reached with ⟨_, _, impossible, -⟩ |
      ⟨rfl, rfl, _, rfl, ⟨cause, refused, rfl⟩ | ⟨_, impossible, -⟩⟩
    · cases required.symm.trans impossible
    · obtain rfl := Except.error.inj (required.symm.trans refused)
      rw [summarized_of_begun begun]
      refine ⟨[("tool", .text tool), ("bind_as", .ofText? bindAs)], [], [], .none rfl ?_,
        fun record written => ?_⟩
      · exact (List.append_nil _).symm
      · rintro _ _ _ _ ⟨rfl, rfl, rfl, rfl⟩
        refine ⟨fun _ => ⟨rfl, written, rfl, rfl⟩, fun registered => ?_⟩
        rw [found] at registered
        cases registered
    · cases required.symm.trans impossible
  | some registered =>
    obtain ⟨summary, deeds, fills⟩ :=
      call_isLeaf setup tool args bindAs old p before asked result after begun reached
    have transcript := fills.leaves.transcript
    refine ⟨summary, deeds.transcript, [], .none (fills.steps.trans (List.append_nil _)) ?_, ?_⟩
    · simpa [Deeds.append, Deeds.none, Trail.total] using transcript
    · rintro record - _ _ _ _ ⟨rfl, rfl, rfl, rfl⟩
      refine ⟨fun absent => ?_, fun _ stop name known failed unknown => ?_⟩
      · rw [found] at absent
        cases absent
      · obtain rfl : result = .error stop := failed
        exact execCall_raised found reached unknown

/-! ## Statements that contain others -/

/-- A statement that has stopped before anything inside it was started. -/
private theorem fulfils_idle {summary : List (String × Value)} (other : stmt.stepKind ≠ .call)
    (steps : before.steps = opened old stmt.stepKind stmt.position summary) :
    ∃ summary entries acts,
      Enacts setup.catalogue stmt.flatten
        { before with
          steps := opened old stmt.stepKind stmt.position summary
          transcript := before.transcript ++ entries } [] before acts ∧
      ∀ record : Step, record.summary = summary →
        Act.Settled setup.catalogue ⟨stmt, record, entries, [], result⟩ := by
  exact ⟨summary, [], [], .none steps (List.append_nil _).symm,
    fun _ _ => Act.settled_of_kind other⟩

/-- A statement that has written its summary and has then done nothing but what is inside it. -/
private theorem fulfils_inside {summary : List (String × Value)} {acts : List Act}
    (other : stmt.stepKind ≠ .call)
    (enacts : Enacts setup.catalogue stmt.flatten
      { before with steps := opened old stmt.stepKind stmt.position summary } asked after
      acts) :
    ∃ summary entries acts,
      Enacts setup.catalogue stmt.flatten
        { before with
          steps := opened old stmt.stepKind stmt.position summary
          transcript := before.transcript ++ entries } asked after acts ∧
      ∀ record : Step, record.summary = summary →
        Act.Settled setup.catalogue ⟨stmt, record, entries, asked, result⟩ := by
  refine ⟨summary, [], acts, ?_, fun _ _ => Act.settled_of_kind other⟩
  rw [List.append_nil]
  exact enacts

theorem branch_fulfils {condition : Expr} {thenBody : List Stmt} {elseBody : Option (List Stmt)}
    (thenEnacts : Enacting setup (Stmt.flattenAll thenBody) (execAll setup thenBody))
    (elseEnacts : Enacting setup (Stmt.flattenElse elseBody) (execElse setup elseBody))
    (p : Position) :
    Fulfils setup (.branch condition thenBody elseBody p) (fun index => do
      let holds ← evaluated (condition.condition (← env) "Condition of 'if'")
      summarize index [("condition", .boolean holds), ("branch", .text (branchName holds elseBody))]
      if holds then execAll setup thenBody else execElse setup elseBody) := by
  intro old before asked result after begun reached
  have other : (Stmt.branch condition thenBody elseBody p).stepKind ≠ .call := nofun
  simp only [summarize, reaches_env_bind, reaches_evaluated_bind, reaches_modify_bind, begun,
    summarize_opened] at reached
  rcases reached with ⟨holds, -, reached⟩ | ⟨stop, -, rfl, rfl, rfl⟩
  · cases holds with
    | true =>
      obtain ⟨acts, enacts⟩ := thenEnacts _ asked result after reached
      refine fulfils_inside other (enacts.mono fun inner member => ?_)
      exact List.mem_cons_of_mem _ (List.mem_append_left _ member)
    | false =>
      obtain ⟨acts, enacts⟩ := elseEnacts _ asked result after reached
      refine fulfils_inside other (enacts.mono fun inner member => ?_)
      exact List.mem_cons_of_mem _ (List.mem_append_right _ member)
  · exact fulfils_idle other begun

/-- Rounds of a loop, one after the other. -/
theorem forEach_enacting {item : String} {body : List Stmt}
    (bodyEnacts : Enacting setup stmts (execAll setup body)) (items : List Value) :
    Enacting setup stmts (forEach (fun value => do bind item value; execAll setup body) items) := by
  induction items with
  | nil =>
    intro before asked result after reached
    obtain ⟨rfl, -, rfl⟩ := reaches_pure.mp reached
    exact ⟨[], .none rfl rfl⟩
  | cons value rest ih =>
    intro before asked result after reached
    rcases reaches_bind.mp reached with ⟨⟨⟩, front, middle, back, round, more, rfl⟩ |
      ⟨stop, round, rfl⟩
    · obtain ⟨early, first⟩ := bodyEnacts _ front _ middle (reaches_modify_bind.mp round)
      obtain ⟨late, second⟩ := ih middle back result after more
      exact ⟨early ++ late, first.rebound.trans second⟩
    · obtain ⟨acts, enacts⟩ := bodyEnacts _ asked _ after (reaches_modify_bind.mp round)
      exact ⟨acts, enacts.rebound⟩

theorem loop_fulfils {item : String} {collection : Expr} {body : List Stmt}
    (bodyEnacts : Enacting setup (Stmt.flattenAll body) (execAll setup body)) (p : Position) :
    Fulfils setup (.loop item collection body p) (fun index => do
      let items ← checked (← evaluated (collection.evaluate (← env))).loopItems
      summarize index [("item", .text item), ("count", .integer items.length)]
      restoring item (forEach (fun value => do bind item value; execAll setup body) items)) := by
  intro old before asked result after begun reached
  have other : (Stmt.loop item collection body p).stepKind ≠ .call := nofun
  simp only [summarize, restoring, reaches_env_bind, reaches_evaluated_bind, reaches_checked_bind,
    reaches_modify_bind, reaches_attempt_bind, reaches_inside, reaches_evaluated, begun,
    summarize_opened] at reached
  rcases reached with
    ⟨value, -, ⟨items, -, kept, front, middle, back, rounds, ⟨rfl, rfl, rfl⟩, rfl⟩ |
    ⟨cause, -, rfl, rfl, rfl⟩⟩ | ⟨stop, -, rfl, rfl, rfl⟩
  · obtain ⟨acts, enacts⟩ := forEach_enacting bodyEnacts items _ front result middle rounds
    rw [List.append_nil]
    refine fulfils_inside other (enacts.restored.mono fun inner member => ?_)
    exact List.mem_cons_of_mem _ member
  · exact fulfils_idle other begun
  · exact fulfils_idle other begun

mutual

/-- A statement starts itself and some of the statements inside it. -/
theorem exec_enacting (setup : Setup) (stmt : Stmt) :
    Enacting setup stmt.flatten (exec setup stmt) := by
  match stmt with
  | .say expr p =>
    rw [exec]
    exact Fulfils.recorded (IsLeaf.fulfils (.say expr p) (say_isLeaf setup expr) nofun)
  | .ask prompt options p =>
    rw [exec]
    exact Fulfils.recorded (IsLeaf.fulfils (.ask prompt options p)
      (ask_isLeaf setup prompt options) nofun)
  | .set name expr p =>
    rw [exec]
    exact Fulfils.recorded (IsLeaf.fulfils (.set name expr p) (set_isLeaf setup name expr) nofun)
  | .call tool args bindAs p =>
    rw [exec]
    exact (call_fulfils setup tool args bindAs p).recorded
  | .branch condition thenBody elseBody p =>
    rw [exec]
    exact (branch_fulfils (execAll_enacting setup thenBody)
      (execElse_enacting setup elseBody) p).recorded
  | .loop item collection body p =>
    rw [exec]
    exact (loop_fulfils (execAll_enacting setup body) p).recorded
  | .remember key value mode p =>
    rw [exec]
    exact Fulfils.recorded (IsLeaf.fulfils (.remember key value mode p)
      (remember_isLeaf setup key value mode) nofun)
  | .recollect key bindAs p =>
    rw [exec]
    exact Fulfils.recorded (IsLeaf.fulfils (.recollect key bindAs p)
      (recollect_isLeaf setup key bindAs) nofun)

theorem execAll_enacting (setup : Setup) (body : List Stmt) :
    Enacting setup (Stmt.flattenAll body) (execAll setup body) := by
  match body with
  | [] =>
    intro before asked result after reached
    rw [execAll] at reached
    obtain ⟨rfl, -, rfl⟩ := reaches_pure.mp reached
    exact ⟨[], .none rfl rfl⟩
  | stmt :: rest =>
    intro before asked result after reached
    rw [execAll] at reached
    rw [Stmt.flattenAll]
    rcases reaches_bind.mp reached with ⟨⟨⟩, front, middle, back, now, more, rfl⟩ | ⟨stop, now, rfl⟩
    · obtain ⟨early, first⟩ := exec_enacting setup stmt before front _ middle now
      obtain ⟨late, second⟩ := execAll_enacting setup rest middle back result after more
      exact ⟨early ++ late, (first.mono (List.subset_append_left _ _)).trans
        (second.mono (List.subset_append_right _ _))⟩
    · obtain ⟨acts, enacts⟩ := exec_enacting setup stmt before asked _ after now
      exact ⟨acts, enacts.mono (List.subset_append_left _ _)⟩

theorem execElse_enacting (setup : Setup) (body : Option (List Stmt)) :
    Enacting setup (Stmt.flattenElse body) (execElse setup body) := by
  match body with
  | none =>
    intro before asked result after reached
    rw [execElse] at reached
    obtain ⟨rfl, -, rfl⟩ := reaches_pure.mp reached
    exact ⟨[], .none rfl rfl⟩
  | some body =>
    rw [execElse]
    exact execAll_enacting setup body

end

end Run

/-- All statements of a program. -/
def Program.statements (program : Program) : List Stmt :=
  program.bots.flatMap fun bot => bot.handlers.flatMap Handler.statements

namespace Run

variable {request : RunRequest} {program : Program} {bot : Bot}

theorem answer_enacting (setup : Setup) (among : bot ∈ program.bots) :
    Enacting setup program.statements (answer request setup bot) := by
  intro before asked result after reached
  simp only [answer, reaches_env_bind, reaches_evaluated_bind] at reached
  rcases reached with ⟨found, selected, reached⟩ | ⟨stop, -, rfl, rfl, rfl⟩
  · cases found with
    | some listed =>
      obtain ⟨index, handler⟩ := listed
      obtain ⟨offset, rfl, listed, -⟩ := firstAccepting_listed selected
      obtain ⟨acts, enacts⟩ :=
        execAll_enacting setup handler.body _ asked result after (reaches_modify_bind.mp reached)
      refine ⟨acts, enacts.steps, enacts.transcript, enacts.during, fun act member => ?_⟩
      refine (enacts.fair act member).imp_left fun inside => ?_
      exact List.mem_flatMap.mpr ⟨bot, among,
        List.mem_flatMap.mpr ⟨handler, List.mem_of_getElem? listed, inside⟩⟩
    | none =>
      dsimp only at reached
      split at reached
      · obtain ⟨rfl, rfl, rfl⟩ := reaches_modify.mp reached
        exact ⟨[], .none rfl rfl⟩
      · obtain ⟨rfl, rfl, rfl⟩ := reaches_fail.mp reached
        exact ⟨[], .none rfl rfl⟩
  · exact ⟨[], .none rfl rfl⟩

/-- A run starts statements of its program and nothing else. -/
theorem program_enacts {catalogue : Catalogue} {env : Environment} {asked : List Exchange}
    {result : Except Stop Unit} {after : RunState}
    (offered : Catalogue.ofOffers request.offers = .ok catalogue)
    (reached : Reaches (Run.program request program) (.initial env) asked result after) :
    ∃ acts, Enacts catalogue program.statements (.initial env) asked after acts := by
  simp only [Run.program, reaches_checked_bind, reaches_modify_bind, reaches_host_bind,
    reaches_evaluated_bind, offered, mapError_ok] at reached
  rcases reached with ⟨bot, selected, start, front, back, observed, reached, rfl⟩ |
    ⟨cause, -, rfl, rfl, rfl⟩
  · rcases reached with ⟨_, same, reached⟩ | ⟨stop, impossible, -⟩
    · obtain rfl := Except.ok.inj same
      rcases reaches_bind.mp reached with ⟨⟨⟩, loading, ready, rest, loaded, answered, rfl⟩ |
        ⟨stop, loaded, rfl⟩
      · obtain ⟨-, -, -, -, loaded⟩ := loadVariables_reaches loaded
        obtain ⟨acts, enacts⟩ :=
          answer_enacting _ (mem_of_selectBot selected) ready rest result after answered
        rw [← List.append_assoc]
        refine ⟨[] ++ acts, Enacts.trans (.none ?_ ?_) enacts⟩
        · rw [loaded]
        · rw [loaded]
      · obtain ⟨-, -, -, -, loaded⟩ := loadVariables_reaches loaded
        refine ⟨[], .none ?_ ?_⟩
        · rw [loaded]
        · rw [loaded]
    · cases impossible
  · exact ⟨[], .none rfl rfl⟩

end Run

end BotScript
