import BotScript.Check.Report
import BotScript.Proofs.Run.Effects
import BotScript.Proofs.Run.Flow
import BotScript.Proofs.Run.Prepare
import BotScript.Proofs.Run.Totality

/-! What a check of a program promises about its runs. When a run fails for an unbound variable, a
check that knows the variables of the run has warned of it, or the handler that failed binds the
variable somewhere. -/

namespace BotScript

open BotScript.Expr (Spelled)
open Environment (IsPlain)

/-- A name that is read has a first place. -/
theorem mem_firstOfEach {reads : List (String × Position)} {name : String} {p : Position}
    (read : (name, p) ∈ reads) :
    ∃ first, (name, first) ∈ firstOfEach reads := by
  induction reads with
  | nil => cases read
  | cons head rest ih =>
    obtain ⟨other, q⟩ := head
    rw [firstOfEach]
    by_cases same : other = name
    · subst same
      exact ⟨q, List.mem_cons_self⟩
    · rcases List.mem_cons.mp read with here | later
      · exact absurd (congrArg Prod.fst here).symm same
      · obtain ⟨first, kept⟩ := ih later
        exact ⟨first,
          List.mem_cons_of_mem _ (List.mem_filter.mpr ⟨kept, by simpa using Ne.symm same⟩)⟩

/-! ## Warnings -/

/-- A check of a program text warns that a variable is read and that nothing binds it. -/
def Warns (source : String) (catalogue : Option (List String)) (known : List String)
    (name : String) : Prop :=
  ∃ report, checkSource source catalogue known = .ok report ∧
    ∃ warning ∈ report.warnings, warning.finding = .unboundRead name

/-- A check warns of a variable that an expression of a handler needs when it is not one of those
that are bound from the start and the handler does not bind it either. -/
theorem warns_of_read {source : String} {program : Program} {bot : Bot} {handler : Handler}
    {known : List String} {name : String} {p : Position}
    (parsed : parseProgram source = .ok program) (among : bot ∈ program.bots)
    (handles : handler ∈ bot.handlers) (read : (name, p) ∈ handler.reads)
    (unknown : name ∉ "input" :: known) (undeclared : name ∉ bot.memoryNames)
    (unset : name ∉ handler.boundNames) (catalogue : Option (List String)) :
    Warns source catalogue known name := by
  refine ⟨program.check catalogue known, by rw [checkSource, parsed], ?_⟩
  have unbound : name ∉ "input" :: known ++ bot.memoryNames ++ handler.boundNames := by
    simp only [List.mem_append, not_or]
    exact ⟨⟨unknown, undeclared⟩, unset⟩
  have kept : (name, p) ∈ handler.reads.filter fun read =>
      !("input" :: known ++ bot.memoryNames ++ handler.boundNames).contains read.1 :=
    List.mem_filter.mpr ⟨read, by simpa using unbound⟩
  obtain ⟨first, listed⟩ := mem_firstOfEach kept
  refine ⟨⟨.unboundRead name, first⟩, List.mem_append_right _ ?_, rfl⟩
  refine List.mem_flatMap.mpr ⟨bot, among, List.mem_append_right _ ?_⟩
  refine List.mem_flatMap.mpr ⟨handler, handles, List.mem_append_right _ ?_⟩
  exact List.mem_map.mpr ⟨_, listed, rfl⟩

/-! ## Runs -/

namespace RunRequest

/-- The variables that are bound when a run of a bot chooses its handler: the input, those of the
request and those that the bot declares. -/
def seeds (request : RunRequest) (bot : Bot) : List String :=
  "input" :: request.bindings.map Prod.fst ++ bot.memoryNames

/-- That a handler misses a variable is foreseen: a check that knows the variables of the request
warns of it, whatever tools there are, or the handler binds the variable somewhere. -/
def Foresees (request : RunRequest) (handler : Handler) (name : String) : Prop :=
  (∀ catalogue, Warns request.source catalogue (request.bindings.map Prod.fst) name) ∨
  name ∈ handler.boundNames

/-- What stops a run stops it in a handler of its bot: in the guard, behind guards that did not
hold, or in the body. -/
inductive StopsIn (request : RunRequest) (bot : Bot) (ready after : RunState) (stop : Stop)
    (handler : Handler) : Prop
  | guard {index : Nat} (listed : bot.handlers[index]? = some handler)
      (passed : ∀ earlier ∈ bot.handlers.take index,
        Bot.accepts ready.env request.event earlier = .ok false)
      (stopped : Bot.accepts ready.env request.event handler = .error stop) :
      StopsIn request bot ready after stop handler
  | body {index : Nat} (listed : bot.handlers[index]? = some handler)
      (chosen : after.handler = some index) :
      StopsIn request bot ready after stop handler

/-- The part of a run from the choice of its handler on: at every moment the seeds are bound, and
when it fails for an unbound variable that was foreseen, unless the host raised the failure. -/
structure Holds (request : RunRequest) (bot : Bot) (ready : RunState) (turns : List (Turn Standing))
    (result : Except Stop Unit) (after : RunState) : Prop where
  chosen : ready.env.Binds (request.seeds bot)
  during : ∀ turn ∈ turns, turn.standing.state.env.Binds (request.seeds bot)
  ended : after.env.Binds (request.seeds bot)
  foreseen : ∀ stop name known, result = .error stop → stop.cause? = some (.unbound name known) →
    Exchange.Raised (turns.map Turn.exchange) (.unbound name known) ∨
      ∃ handler, request.StopsIn bot ready after stop handler ∧ request.Foresees handler name

/-! ## The guards -/

/-- The guard of a handler that fails for an unbound variable misses it. -/
theorem misses_of_accepts {env : Environment} {event name : String} {known : List String}
    {handler : Handler} {stop : Stop} (stopped : Bot.accepts env event handler = .error stop)
    (unbound : stop.cause? = some (.unbound name known)) :
    ∃ guard, handler.guard = some guard ∧ guard.Misses env name known := by
  unfold Bot.accepts at stopped
  split at stopped
  · cases stopped
  · split at stopped
    · cases stopped
    · rename_i guard guarded
      exact ⟨guard, guarded, Expr.misses_of_condition stopped unbound⟩

/-! ## From the choice of a handler on -/

section

variable {request : RunRequest} {program : Program} {env : Environment} {bot : Bot}
  {handler : Handler} {setup : Setup}
  {ready after : RunState} {front turns : List (Turn Standing)} {result : Except Stop Unit}

/-- An expression of a handler that misses a variable while the seeds are bound misses one that is
foreseen. -/
theorem foresees_of_misses {e : Expr} {name : String} {known : List String}
    (parsed : parseProgram request.source = .ok program) (among : bot ∈ program.bots)
    (handles : handler ∈ bot.handlers) (part : e ∈ handler.expressions)
    (bound : env.Binds (request.seeds bot)) (misses : e.Misses env name known) :
    request.Foresees handler name := by
  have spelled :=
    ((plain_of_parseProgram parsed bot among).handlers handler handles).expressions e part
  obtain ⟨⟨p, needed⟩, nothing⟩ := spelled.unbound misses
  by_cases unset : name ∈ handler.boundNames
  · exact .inr unset
  · have apart : name ∉ request.seeds bot := by
      intro seeded
      have held := bound name seeded
      rw [Environment.has, nothing] at held
      cases held
    obtain ⟨unknown, undeclared⟩ := not_or.mp (mt List.mem_append.mpr apart)
    exact .inl (warns_of_read parsed among handles
      (List.mem_flatMap.mpr ⟨e, part, needed⟩) unknown undeclared unset)

/-- The input and the variables of a request are bound from the start. -/
theorem environment_binds (bound : request.environment = .ok env) :
    env.Binds ("input" :: request.bindings.map Prod.fst) := by
  unfold RunRequest.environment at bound
  cases input : inputValue request.input with
  | error obstacle =>
    rw [input] at bound
    cases bound
  | ok value =>
    rw [input] at bound
    have first : (Environment.empty.bind "input" value).Binds ["input"] :=
      List.forall_mem_singleton.mpr (Environment.has_bind _ _ _)
    exact first.bindAll bound

/-- When a run has come to the choice of its handler, its seeds are bound. -/
theorem binds_of_prepared (prepared : Run.Prepared request program env front bot setup ready)
    (bound : request.environment = .ok env) : ready.env.Binds (request.seeds bot) := by
  obtain ⟨-, ⟨catalogue, now, rfl⟩, moment, asked, values, path, -, rfl⟩ := prepared
  have names : values.map Prod.fst = Entries.keys (Slot.ofBlocks request.metadata bot.memory) :=
    Run.hydrate_names path
  have all := (environment_binds bound).bindValues values
  intro name member
  refine all name ?_
  rcases List.mem_append.mp member with given | declared
  · exact List.mem_append_left _ given
  · refine List.mem_append_right _ ?_
    rw [names, Slot.ofBlocks, Entries.keys_ofList, List.mem_eraseDups]
    simpa [Entries.keys, Bot.memoryNames, List.map_flatMap, Function.comp_def] using declared

/-- From the choice of a handler on, a run holds what the check promises. -/
theorem answer_holds (parsed : parseProgram request.source = .ok program)
    (among : bot ∈ program.bots) (keyed : ready.env.WellKeyed)
    (bound : ready.env.Binds (request.seeds bot))
    (taken : Run.Takes (Run.answer request setup bot) ready turns result after) :
    request.Holds bot ready turns result after := by
  simp only [Run.answer, Run.takes_env_bind, Run.takes_evaluated_bind] at taken
  rcases taken with ⟨found, selected, taken⟩ | ⟨stop, selected, rfl, rfl, rfl⟩
  · cases found with
    | some listed =>
      obtain ⟨index, handler⟩ := listed
      obtain ⟨offset, rfl, listed, -⟩ := Run.firstAccepting_listed selected
      have handles := List.mem_of_getElem? listed
      have taken := Run.takes_modify_bind.mp taken
      have each := (plain_of_parseProgram parsed bot among).handlers handler handles
      have flow := (Run.flows_handler each).taken taken keyed
      obtain ⟨last, during⟩ := flow.keeps_bound bound
      refine ⟨bound, List.forall_mem_map.mp during, last, fun stop name known failed unbound => ?_⟩
      have failed : result.mapError Stop.cause? = .error (some (.unbound name known)) := by
        rw [failed, ← unbound]
        rfl
      rcases flow.misses bound failed with ⟨stmt, member, e, part, env', held, misses⟩ | raised
      · have part : e ∈ handler.expressions :=
          List.mem_append_right _ (List.mem_flatMap.mpr ⟨stmt, member, part⟩)
        refine .inr ⟨handler, .body listed ?_,
          foresees_of_misses parsed among handles part held misses⟩
        obtain ⟨trail, adds, -⟩ :=
          Run.execAll_follows setup handler.body _ _ result after taken.reaches
        exact adds.leaves.handler.trans (congrArg some (Nat.zero_add offset))
      · rw [exchanges_of_sights] at raised
        exact .inl raised
    | none =>
      dsimp only at taken
      split at taken
      · obtain ⟨rfl, rfl, rfl⟩ := Run.takes_modify.mp taken
        refine ⟨bound, List.forall_mem_nil _, bound, fun _ _ _ failed => ?_⟩
        cases failed
      · obtain ⟨rfl, rfl, rfl⟩ := Run.takes_throw.mp taken
        refine ⟨bound, List.forall_mem_nil _, bound, fun stop name known failed unbound => ?_⟩
        obtain rfl := Except.error.inj failed
        cases unbound
  · refine ⟨bound, List.forall_mem_nil _, bound, fun other name known failed unbound => .inr ?_⟩
    obtain rfl := Except.error.inj failed
    obtain ⟨index, handler, listed, refused, passed⟩ := Bot.firstAccepting_eq_error.mp selected
    obtain ⟨guard, guarded, misses⟩ := misses_of_accepts refused unbound
    have part : guard ∈ handler.expressions := List.mem_append_left _ (by simp [guarded])
    exact ⟨handler, .guard listed passed refused,
      foresees_of_misses parsed among (List.mem_of_getElem? listed) part bound misses⟩

end

/-- Whatever its host does, the run of a program misses no variable without a warning. From the
choice of a handler on the input, the variables of the request and the declared variables are bound
at every moment; when the run fails for an unbound variable that the host did not raise, the
variable is missing in the guard or the body of a handler, and a check that knows the variables of
the request has warned of it or the handler binds it somewhere. The left side of `??` never fails
so. -/
theorem execute_foreseen {σ : Type} (request : RunRequest) (host : Host σ) (world : σ)
    {program : Program} {env : Environment} {turns : List (Turn Standing)}
    {result : Except Stop Unit} {after : RunState}
    (parsed : parseProgram request.source = .ok program) (bound : request.environment = .ok env)
    (took : ((Run.program request program).narrate (.initial env)).turns host world = turns)
    (ran : (((Run.program request program).outcome (.initial env)).run host world).1 =
      (result, after)) :
    (request.execute.run host world).1 = request.conclude (result, after) ∧
      ((∃ stop, Run.Takes (Run.prepare request program) (.initial env) turns (.error stop) after ∧
          result = .error stop ∧
          ∀ name known, stop.cause? = some (.unbound name known) →
            Exchange.Raised (turns.map Turn.exchange) (.unbound name known)) ∨
        ∃ bot setup front ready back, turns = front ++ back ∧
          Run.Prepared request program env front bot setup ready ∧
          Run.Takes (Run.answer request setup bot) ready back result after ∧
          request.Holds bot ready back result after) ∧
      ∀ (env : Environment) (left right : Expr) (p : Position) (name : String)
        (known : List String),
        (left.Misses env name known → Expr.eval env (.coalesce left right p) =
            Expr.eval env right) ∧
          ((Expr.coalesce left right p).Misses env name known → right.Misses env name known) := by
  refine ⟨?_, ?_, fun env left right p name known => ⟨fun misses => ?_, Expr.misses_of_coalesce⟩⟩
  · unfold execute
    rw [parsed, bound]
    dsimp only
    rw [Dialogue.run_bind, ran]
    rfl
  · have path :=
      Narrative.run_path host ((Run.program request program).narrate (.initial env)) world
    change Narrative.Path _ _
      (((Run.program request program).outcome (.initial env)).run host world).1 at path
    rw [took, ran] at path
    have taken : Run.Takes (Run.program request program) (.initial env) turns result after := path
    rw [Run.program_eq] at taken
    rcases Run.takes_bind.mp taken with ⟨⟨bot, setup⟩, front, ready, back, begun, answered, rfl⟩ |
      ⟨stop, stopped, rfl⟩
    · rcases Run.prepare_takes begun with ⟨_, _, same, prepared⟩ | ⟨stop, impossible, -⟩
      · obtain ⟨rfl, rfl⟩ := Prod.mk.inj (Except.ok.inj same)
        have among := Run.mem_of_selectBot prepared.selected
        have holds := answer_holds parsed among (prepared.wellKeyed bound)
          (binds_of_prepared prepared bound) answered
        exact .inr ⟨bot, setup, front, ready, back, rfl, prepared, answered, holds⟩
      · cases impossible
    · rcases Run.prepare_takes stopped with ⟨_, _, impossible, -⟩ | ⟨failure, same, raised⟩
      · cases impossible
      · obtain rfl := Except.error.inj same
        exact .inl ⟨stop, stopped, rfl, raised⟩
  · unfold Expr.Misses at misses
    have replaced : Expr.isReplaced (Expr.eval env left) = true := by
      rw [misses]
      rfl
    rw [Expr.eval, if_pos replaced]

/-- A request whose program needs a variable in the place of a missing one, behind a loop over its
input. -/
def missing : RunRequest :=
  { alone "bot b on input loop $input in xs say $input end set x to y ?? z end end" with
    bindings := [("xs", .list [.integer 1])] }

/-- Whether a run for bare input fails for a variable that is missing under a name and that no reply
of the host raised. -/
def missesUnraised (request : RunRequest) (name : String) : Bool :=
  match parseProgram request.source, request.environment with
  | .ok program, .ok env =>
    match (((Run.program request program).outcome (.initial env)).run
      World.host (World.bare [])).1 with
    | (.error (.fault ⟨.unbound unbound _, _⟩), _) =>
      unbound = name &&
        (((Run.program request program).narrate (.initial env)).turns
          World.host (World.bare [])).all fun turn => turn.exchange.raised?.isNone
    | _ => false
  | _, _ => false

theorem missing_foreseen :
    ∃ (program : Program) (env : Environment) (stop : Stop) (after : RunState) (bot : Bot)
      (ready : RunState) (handler : Handler) (known : List String),
      parseProgram missing.source = .ok program ∧ missing.environment = .ok env ∧
        (((Run.program missing program).outcome (.initial env)).run World.host (World.bare [])).1 =
          (.error stop, after) ∧
        stop.cause? = some (.unbound "z" known) ∧ after.env.has "input" = true ∧
        missing.StopsIn bot ready after stop handler ∧ missing.Foresees handler "z" := by
  have shown : missing.missesUnraised "z" = true := by decide +kernel
  unfold missesUnraised at shown
  split at shown
  · rename_i program env parsed bound
    split at shown
    · rename_i unbound known place after ran
      obtain ⟨same, shown⟩ := Bool.and_eq_true_iff.mp shown
      obtain rfl := of_decide_eq_true same
      have quiet : ∀ cause,
          ¬Exchange.Raised ((((Run.program missing program).narrate (.initial env)).turns World.host
          (World.bare [])).map Turn.exchange) cause := by
        rintro cause ⟨exchange, member, raised⟩
        obtain ⟨turn, among, rfl⟩ := List.mem_map.mp member
        have untroubled := List.all_eq_true.mp shown turn among
        rw [raised] at untroubled
        cases untroubled
      obtain ⟨-, ⟨stop, -, same, raised⟩ |
          ⟨bot, setup, front, ready, back, whole, -, -, holds⟩, -⟩ :=
        execute_foreseen missing World.host (World.bare []) parsed bound rfl ran
      · obtain rfl := Except.error.inj same
        exact absurd (raised "z" known rfl) (quiet _)
      · rcases holds.foreseen _ "z" known rfl rfl with raised | ⟨handler, stops, foreseen⟩
        · refine absurd (raised.mono ?_) (quiet _)
          rw [whole, List.map_append]
          exact List.subset_append_right _ _
        · exact ⟨program, env, _, after, bot, ready, handler, known, parsed, bound, ran, rfl,
            holds.ended "input" (List.mem_append_left _ List.mem_cons_self), stops, foreseen⟩
    · cases shown
  · cases shown

end RunRequest

end BotScript
