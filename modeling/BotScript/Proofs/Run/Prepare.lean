import BotScript.Proofs.Evaluation.Keys
import BotScript.Proofs.Evaluation.Unbound
import BotScript.Proofs.Host.Raised
import BotScript.Proofs.Run.Takes
import BotScript.Run.Execute

/-! What a run does before it chooses its handler: the bot is chosen and the declared variables are
read. Every run is this and then the answer to its event. -/

namespace BotScript.Run

variable {α β γ : Type} {request : RunRequest} {program : Program} {setup : Setup}
  {before after : RunState}
  {turns : List (Turn Standing)}

theorem bind_assoc (part : Run α) (next : α → Run β) (last : β → Run γ) :
    part >>= next >>= last = part >>= fun a => next a >>= last := by
  refine ExceptT.ext (funext fun state => ?_)
  change (part >>= next >>= last).narrate state = (part >>= fun a => next a >>= last).narrate state
  rw [narrate_bind, narrate_bind, narrate_bind, Narrative.bind_assoc]
  congr 1
  funext pair
  obtain ⟨result, middle⟩ := pair
  cases result with
  | ok a => exact (narrate_bind (next a) last middle).symm
  | error stop => rfl

/-- A run up to the choice of its handler: the bot that runs and what is fixed for it. -/
def prepare (request : RunRequest) (program : Program) : Run (Bot × Setup) := do
  let bot ← checked (program.selectBot request.settings request.bot)
  modify fun state => { state with bot := some bot.name }
  let start ← host (Dialogue.query .observe)
  let catalogue ← evaluated ((Catalogue.ofOffers request.offers).mapError Stop.escape)
  let setup := request.setup bot catalogue start.now
  loadVariables setup
  return (bot, setup)

theorem program_eq (request : RunRequest) (program : Program) :
    Run.program request program = prepare request program >>=
      fun chosen => answer request chosen.2 chosen.1 := by
  unfold Run.program prepare
  simp only [bind_assoc]
  rfl

/-- The declared variables are read in the order of their slots, and then they are all bound. -/
theorem loadVariables_takes {result : Except Stop Unit}
    (taken : Takes (loadVariables setup) before turns result after) :
    ∃ given asked, (setup.memory.hydrate setup.slots).Path asked given ∧
      turns = asked.map (Turn.mk ⟨before, []⟩) ∧
      ((∃ values, given = .ok values ∧ result = .ok () ∧
        after = { before with env := before.env.bindValues values }) ∨
        ∃ stop, given = .error stop ∧ result = .error stop ∧ after = before) := by
  have binds : ∀ (values : List (String × Value)) (before : RunState) (turns : List (Turn Standing))
      (result : Except Stop Unit) (after : RunState),
      Takes (forEach (fun pair : String × Value => bind pair.1 pair.2) values) before turns
        result after →
      turns = [] ∧ result = .ok () ∧
        after = { before with env := before.env.bindValues values } := by
    intro values
    induction values with
    | nil =>
      intro before turns result after taken
      exact takes_pure.mp taken
    | cons pair rest ih =>
      intro before turns result after taken
      exact ih _ turns result after (takes_modify_bind.mp taken)
  simp only [loadVariables, takes_host_bind, takes_evaluated_bind] at taken
  obtain ⟨given, asked, back, path, ⟨values, rfl, taken⟩ | ⟨stop, rfl, rfl, rfl, rfl⟩, rfl⟩ := taken
  · obtain ⟨rfl, rfl, rfl⟩ := binds values before back result after taken
    exact ⟨_, asked, path, List.append_nil _, .inl ⟨values, rfl, rfl, rfl⟩⟩
  · exact ⟨_, asked, path, List.append_nil _, .inr ⟨stop, rfl, rfl, rfl⟩⟩

/-- A value is read for each declared variable. -/
theorem hydrate_names {access : MemoryAccess} {slots : List (String × Slot)} {asked : List Exchange}
    {values : List (String × Value)} (path : (access.hydrate slots).Path asked (.ok values)) :
    values.map Prod.fst = slots.map Prod.fst := by
  induction slots generalizing asked values with
  | nil =>
    obtain ⟨-, same⟩ := Dialogue.path_pure_iff.mp path
    obtain rfl := Except.ok.inj same
    rfl
  | cons slot rest ih =>
    obtain ⟨given, front, back, -, later, -⟩ := Dialogue.path_bind_iff.mp path
    cases given with
    | error stop => cases (Dialogue.path_pure_iff.mp later).2
    | ok value =>
      obtain ⟨others, middle, last, more, ended, -⟩ := Dialogue.path_bind_iff.mp later
      cases others with
      | error stop => cases (Dialogue.path_pure_iff.mp ended).2
      | ok values =>
        obtain ⟨-, same⟩ := Dialogue.path_pure_iff.mp ended
        obtain rfl := Except.ok.inj same
        exact congrArg (slot.1 :: ·) (ih more)

/-- A run has come to the choice of its handler: the declared variables of its bot are bound to what
was read for them. -/
structure Prepared (request : RunRequest) (program : Program) (env : Environment)
    (front : List (Turn Standing)) (bot : Bot) (setup : Setup) (ready : RunState) : Prop where
  selected : program.selectBot request.settings request.bot = .ok bot
  fixed : ∃ catalogue now, setup = request.setup bot catalogue now
  loaded : ∃ moment asked values, (setup.memory.hydrate setup.slots).Path asked (.ok values) ∧
    front.map Turn.exchange = ⟨.observe, moment⟩ :: asked ∧
    ready = { RunState.initial (env.bindValues values) with bot := some bot.name }

/-- No object among the variables of a request has a key twice. -/
theorem environment_wellKeyed {env : Environment} (bound : request.environment = .ok env) :
    env.WellKeyed := by
  unfold RunRequest.environment at bound
  cases input : RunRequest.inputValue request.input with
  | error obstacle =>
    rw [input] at bound
    cases bound
  | ok value =>
    rw [input] at bound
    exact (Environment.WellKeyed.empty.bind (Datum.wellKeyed_convert input) "input").bindAll bound

theorem Prepared.wellKeyed {env : Environment} {front : List (Turn Standing)} {bot : Bot}
    {ready : RunState} (prepared : Prepared request program env front bot setup ready)
    (bound : request.environment = .ok env) : ready.env.WellKeyed := by
  obtain ⟨-, -, moment, asked, values, path, -, rfl⟩ := prepared
  exact (environment_wellKeyed bound).bindValues (MemoryAccess.hydrate_wellKeyed path values rfl)

theorem selectBot_kind {settings : Settings} {name : Option String} {cause : Cause}
    (refused : program.selectBot settings name = .error cause) : cause.kind ≠ .unbound := by
  unfold Program.selectBot at refused
  repeat' split at refused
  all_goals cases refused
  all_goals exact nofun

/-- A run is prepared, or it has failed before; no such failure is about variables, unless the host
raised it. -/
theorem prepare_takes {env : Environment} {result : Except Stop (Bot × Setup)}
    (taken : Takes (prepare request program) (.initial env) turns result after) :
    (∃ bot setup, result = .ok (bot, setup) ∧ Prepared request program env turns bot setup after) ∨
      ∃ stop, result = .error stop ∧ ∀ name known, stop.cause? = some (.unbound name known) →
        Exchange.Raised (turns.map Turn.exchange) (.unbound name known) := by
  simp only [prepare, takes_checked_bind, takes_modify_bind, takes_host_bind,
    takes_evaluated_bind] at taken
  rcases taken with ⟨bot, selected, start, asked, back, observed, taken, rfl⟩ |
    ⟨cause, refused, rfl, rfl, rfl⟩
  · obtain rfl := Dialogue.path_query_iff.mp observed
    rcases taken with ⟨catalogue, -, taken⟩ | ⟨stop, offered, rfl, rfl, -⟩
    · rcases takes_bind.mp taken with ⟨⟨⟩, front, ready, rest, loading, ended, rfl⟩ |
        ⟨stop, loading, rfl⟩
      · obtain ⟨rfl, rfl, rfl⟩ := takes_pure.mp ended
        obtain ⟨given, asked, path, rfl, ⟨values, rfl, -, rfl⟩ | ⟨_, _, impossible, -⟩⟩ :=
          loadVariables_takes loading
        · refine .inl ⟨bot, _, rfl, selected, ⟨catalogue, start.now, rfl⟩, start, asked, values,
            path, ?_, rfl⟩
          simp [Function.comp_def]
        · cases impossible
      · obtain ⟨given, asked, path, rfl, ⟨_, _, impossible, -⟩ | ⟨_, rfl, same, -⟩⟩ :=
          loadVariables_takes loading
        · cases impossible
        · obtain rfl := Except.error.inj same
          refine .inr ⟨stop, rfl, fun name known unbound => ?_⟩
          cases stop with
          | escape _ => cases unbound
          | fault fault =>
            have cause : fault.cause = .unbound name known := Option.some.inj unbound
            have raised := MemoryAccess.hydrate_raised path (by rw [cause]; rfl)
            rw [cause] at raised
            refine raised.mono ?_
            simp [Function.comp_def]
    · refine .inr ⟨stop, rfl, fun name known unbound => ?_⟩
      cases given : Catalogue.ofOffers request.offers with
      | ok catalogue =>
        rw [given] at offered
        cases offered
      | error escape =>
        rw [given] at offered
        obtain rfl := Except.error.inj offered
        cases unbound
  · refine .inr ⟨_, rfl, fun name known unbound => ?_⟩
    obtain rfl : cause = .unbound name known := Option.some.inj unbound
    exact absurd rfl (selectBot_kind refused)

/-- Up to the choice of its handler a run only looks at the time and reads its memory; all that
while nothing is bound but what was bound before, and when it fails by then, nothing else is bound
in the end. -/
theorem prepare_looks {env : Environment} {result : Except Stop (Bot × Setup)}
    (taken : Takes (prepare request program) (.initial env) turns result after) :
    (∀ turn ∈ turns, turn.standing.state.env = env) ∧
      Exchange.toolRuns (turns.map Turn.exchange) = [] ∧
      (∀ call ∈ Exchange.memoryCalls (turns.map Turn.exchange), ∃ key, call = .get key) ∧
      ∀ stop, result = .error stop → after.env = env := by
  simp only [prepare, takes_checked_bind, takes_modify_bind, takes_host_bind,
    takes_evaluated_bind] at taken
  rcases taken with ⟨bot, selected, start, asked, back, observed, taken, rfl⟩ |
    ⟨cause, refused, rfl, rfl, rfl⟩
  · obtain rfl := Dialogue.path_query_iff.mp observed
    have first : ∀ turn ∈ [Turn.mk
        (⟨{ RunState.initial env with bot := some bot.name }, []⟩ : Standing) ⟨.observe, start⟩],
        turn.standing.state.env = env := List.forall_mem_singleton.mpr rfl
    rcases taken with ⟨catalogue, -, taken⟩ | ⟨stop, offered, rfl, rfl, rfl⟩
    · have loads : ∀ {front : List (Turn Standing)} {loaded : Except Stop Unit} {ready : RunState},
          Takes (loadVariables (request.setup bot catalogue start.now))
            { RunState.initial env with bot := some bot.name } front
            loaded ready → (∀ turn ∈ front, turn.standing.state.env = env) ∧
              Exchange.toolRuns (front.map Turn.exchange) = [] ∧
              (∀ call ∈ Exchange.memoryCalls (front.map Turn.exchange), ∃ key, call = .get key) ∧
              ∀ stop, loaded = .error stop → ready.env = env := by
        intro front loaded ready loading
        obtain ⟨given, asked, path, rfl, ended⟩ := loadVariables_takes loading
        obtain ⟨-, runs, calls, -⟩ := MemoryAccess.hydrate_path path
        have exchanges (standing : Standing) :
            (asked.map (Turn.mk standing)).map Turn.exchange = asked := by
          simp [Function.comp_def]
        rw [exchanges]
        refine ⟨List.forall_mem_map.mpr fun _ _ => rfl, runs, fun call member => ?_,
          fun stop failed => ?_⟩
        · obtain ⟨slot, -, rfl⟩ := List.mem_map.mp (calls.subset member)
          exact ⟨slot.2.key, rfl⟩
        · rcases ended with ⟨values, -, rfl, -⟩ | ⟨_, -, -, rfl⟩
          · cases failed
          · rfl
      rcases takes_bind.mp taken with ⟨⟨⟩, front, ready, rest, loading, ended, rfl⟩ |
        ⟨stop, loading, rfl⟩
      · obtain ⟨rfl, rfl, rfl⟩ := takes_pure.mp ended
        obtain ⟨stood, runs, calls, -⟩ := loads loading
        rw [List.append_nil]
        exact ⟨List.forall_mem_append.mpr ⟨first, stood⟩, runs, calls, nofun⟩
      · obtain ⟨stood, runs, calls, unchanged⟩ := loads loading
        exact ⟨List.forall_mem_append.mpr ⟨first, stood⟩, runs, calls,
          fun _ _ => unchanged stop rfl⟩
    · exact ⟨first, rfl, nofun, fun _ _ => rfl⟩
  · exact ⟨List.forall_mem_nil _, rfl, nofun, fun _ _ => rfl⟩

end BotScript.Run
