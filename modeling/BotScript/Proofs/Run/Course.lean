import BotScript.Proofs.Run.Execution
import BotScript.Proofs.Run.Selection
import BotScript.Proofs.Run.Takes
import BotScript.Run.Execute

/-! The course of a whole run. The declared variables are read first; then the statements of one
handler run, and their trail accounts for everything else that the run leaves behind. A run that
stops before has no trail. -/

namespace BotScript

open Exchange

/-- The names that memory blocks declare, one after the other. -/
def Bot.declaredNames (bot : Bot) : List String :=
  bot.memory.flatMap fun block => block.declarations.map MemoryVariable.name

namespace RunRequest

/-- The bot that a request runs, when its source is a program that has it. -/
def chosen? (request : RunRequest) : Option Bot :=
  match parseProgram request.source with
  | .error _ => none
  | .ok program => (program.selectBot request.settings request.bot).toOption

/-- The slots of the variables that the bot of a request declares. -/
def slots (request : RunRequest) : List (String × Slot) :=
  match request.chosen? with
  | none => []
  | some bot => Slot.ofBlocks request.metadata bot.memory

/-- The tools that a request offers. -/
def catalogue (request : RunRequest) : Catalogue :=
  match Catalogue.ofOffers request.offers with
  | .ok catalogue => catalogue
  | .error _ => ⟨[]⟩

/-- The calls of the memory that read the declared variables. -/
def loads (request : RunRequest) : List MemoryCall :=
  request.slots.map fun slot => .get slot.2.key

/-- The request to run a program text alone: no input, no tools and no memory. -/
def alone (source : String) : RunRequest where
  source := source
  input := .null
  event := defaultEvent
  bindings := []
  bot := none
  offers := []
  connected := false
  metadata := .anonymous ""
  settings := .defaults
  redaction := ⟨true, true⟩

end RunRequest

/-- What holds of a value by evaluation holds of one that is there. -/
theorem exists_of_any {ε α : Type} {value : Except ε α} {holds : α → Bool}
    (shown : value.toOption.any holds = true) :
    ∃ a, value = .ok a ∧ holds a = true := by
  cases value with
  | error _ => cases shown
  | ok a => exact ⟨a, rfl, shown⟩

/-- What holds of the result of a run by evaluation holds of a result that the run comes to. -/
theorem concluded_of_any {ε α β : Type} {concluded : Except ε α × β} {holds : α → Bool}
    (shown : concluded.1.toOption.any holds = true) :
    ∃ result journal, concluded = (.ok result, journal) ∧ holds result = true := by
  obtain ⟨result, ended, shown⟩ := exists_of_any shown
  exact ⟨result, concluded.2, Prod.ext ended rfl, shown⟩

namespace RunRequest

/-- A trail goes through a handler of the chosen bot that answers the event, at this place among its
handlers; without a handler there is nothing to go through. -/
inductive Goes (request : RunRequest) : Option Nat → Trail → Prop
  | nowhere : Goes request none .done
  | through {bot : Bot} {index : Nat} {handler : Handler} {trail : Trail}
      (chosen : request.chosen? = some bot) (listed : bot.handlers[index]? = some handler)
      (answers : handler.event = request.event) (follows : trail.Follows handler.body) :
      Goes request (some index) trail

/-- What a run leaves behind is what its trail accounts for, behind the reads of the declared
variables. -/
structure Course (request : RunRequest) (asked : List Exchange) (result : Except Stop Unit)
    (after : RunState) (trail : Trail) : Prop where
  steps : after.steps = trail.starts
  numbered : trail.NumberedFrom 0
  told : told asked = trail.ends
  transcript : after.transcript = trail.total.transcript
  output : after.output = trail.total.transcript.filterMap Utterance.spoken?
  runs : toolRuns asked = trail.total.runs
  calls : ∃ loaded, memoryCalls asked = loaded ++ trail.total.calls ∧ loaded <+: request.loads ∧
    (result = .ok () ∨ after.handler ≠ none → loaded = request.loads)
  accounted : trail.Accounted request.catalogue request.slots
  ends : trail.Ends result
  goes : request.Goes after.handler trail

end RunRequest

namespace Run

variable {request : RunRequest} {before after : RunState} {asked : List Exchange}
  {result : Except Stop Unit}

theorem forEach_onlyBinds (values : List (String × Value)) :
    OnlyBinds (forEach (fun pair : String × Value => bind pair.1 pair.2) values) := by
  induction values with
  | nil => exact pure_onlyBinds
  | cons pair rest ih =>
    intro before asked result after reached
    obtain ⟨rfl, rfl, same⟩ := ih _ asked result after (reaches_modify_bind.mp reached)
    exact ⟨rfl, rfl, same⟩

/-- The declared variables are read, all of them unless a read fails, and nothing but bindings
changes. -/
theorem loadVariables_reaches {setup : Setup}
    (reached : Reaches (loadVariables setup) before asked result after) :
    told asked = [] ∧ toolRuns asked = [] ∧
      memoryCalls asked <+: setup.slots.map (fun slot => .get slot.2.key) ∧
      (result = .ok () → memoryCalls asked = setup.slots.map fun slot => .get slot.2.key) ∧
      after = { before with env := after.env } := by
  simp only [loadVariables, reaches_host_bind, reaches_evaluated_bind] at reached
  obtain ⟨given, front, back, path, reached, rfl⟩ := reached
  obtain ⟨told, runs, loaded, whole⟩ := MemoryAccess.hydrate_path path
  rcases reached with ⟨values, rfl, reached⟩ | ⟨stop, rfl, rfl, rfl, rfl⟩
  · obtain ⟨rfl, rfl, same⟩ := forEach_onlyBinds values before back result after reached
    rw [List.append_nil]
    exact ⟨told, runs, loaded, fun _ => whole values rfl, same⟩
  · rw [List.append_nil]
    refine ⟨told, runs, loaded, ?_, rfl⟩
    intro impossible
    cases impossible

/-- The handler that is chosen stands at its place among the handlers of the bot, and it is one for
the event. -/
theorem firstAccepting_listed {env : Environment} {event : String} {first index : Nat}
    {handler : Handler} {handlers : List Handler}
    (found : Bot.firstAccepting env event first handlers = .ok (some (index, handler))) :
    ∃ offset, index = first + offset ∧ handlers[offset]? = some handler ∧
      handler.event = event := by
  obtain ⟨offset, _, listed, ⟨accepted, place, rfl⟩, -⟩ := Bot.firstAccepting_eq_some.mp found
  exact ⟨offset, place, listed, (Bot.accepts_eq_true.mp accepted).1⟩

end Run

namespace RunRequest

open Run

variable {request : RunRequest} {before after : RunState} {asked : List Exchange}
  {result : Except Stop Unit}

/-- A run that has not come to a handler. -/
theorem Course.early {env : Environment} {bot : Option String} {journal : List Event}
    (loaded : List MemoryCall) (fresh : after = { RunState.initial env with bot, journal })
    (silent : Exchange.told asked = [] ∧ toolRuns asked = []) (calls : memoryCalls asked = loaded)
    (part : loaded <+: request.loads) (whole : result = .ok () → loaded = request.loads) :
    request.Course asked result after .done := by
  subst fresh
  refine ⟨rfl, rfl, silent.1, rfl, rfl, silent.2, ⟨loaded, ?_, part, ?_⟩, trivial,
    Trail.ends_done result, .nowhere⟩
  · rw [calls]
    exact (List.append_nil loaded).symm
  · rintro (finished | impossible)
    · exact whole finished
    · exact absurd rfl impossible

/-- What answers the event, behind the reads of the declared variables. -/
private theorem answer_course {setup : Setup} {bot : Bot} {env : Environment} {journal : List Event}
    {loading : List Exchange} (chosen : request.chosen? = some bot)
    (fixed : setup.catalogue = request.catalogue ∧ setup.slots = request.slots)
    (silent : Exchange.told loading = [] ∧ toolRuns loading = [])
    (loaded : memoryCalls loading = request.loads)
    (fresh : before = { RunState.initial env with bot := some bot.name, journal })
    (reached : Reaches (Run.answer request setup bot) before asked result after) :
    ∃ trail, request.Course (loading ++ asked) result after trail := by
  have early : ∀ {state : RunState} {more : List Event} {ended : Except Stop Unit},
      state = { RunState.initial env with bot := some bot.name, journal := more } →
      request.Course (loading ++ []) ended state .done := by
    intro state more ended same
    rw [List.append_nil]
    exact .early request.loads same silent loaded (List.prefix_rfl) fun _ => rfl
  simp only [Run.answer, reaches_env_bind, reaches_evaluated_bind] at reached
  rcases reached with ⟨found, selected, reached⟩ | ⟨stop, -, rfl, rfl, rfl⟩
  · cases found with
    | some listed =>
      obtain ⟨index, handler⟩ := listed
      obtain ⟨offset, rfl, listed, answers⟩ := firstAccepting_listed selected
      obtain ⟨trail, adds, ends, follows⟩ :=
        execAll_follows setup handler.body _ asked result after (reaches_modify_bind.mp reached)
      subst fresh
      refine ⟨trail, adds.steps, adds.numbered, ?_, adds.leaves.transcript, adds.leaves.output, ?_,
        ?_, ?_, ends, ?_⟩
      · rw [told_append, silent.1, List.nil_append, adds.leaves.told]
      · rw [toolRuns_append, silent.2, List.nil_append, adds.leaves.runs]
      · refine ⟨request.loads, ?_, List.prefix_rfl, fun _ => rfl⟩
        rw [memoryCalls_append, loaded, adds.leaves.calls]
      · rw [← fixed.1, ← fixed.2]
        exact adds.accounted
      · rw [adds.leaves.handler]
        exact .through chosen (by simpa using listed) answers follows
    | none =>
      dsimp only at reached
      split at reached
      · obtain ⟨rfl, rfl, rfl⟩ := reaches_modify.mp reached
        subst fresh
        exact ⟨.done, early rfl⟩
      · obtain ⟨rfl, rfl, rfl⟩ := reaches_fail.mp reached
        exact ⟨.done, early fresh⟩
  · exact ⟨.done, early fresh⟩

/-- The run of a program, on its course. -/
theorem program_course {program : Program} {env : Environment}
    (parsed : parseProgram request.source = .ok program)
    (reached : Reaches (Run.program request program) (.initial env) asked result after) :
    ∃ trail, request.Course asked result after trail := by
  simp only [Run.program, reaches_checked_bind, reaches_modify_bind, reaches_host_bind,
    reaches_evaluated_bind] at reached
  rcases reached with ⟨bot, selected, start, front, back, observed, reached, rfl⟩ |
    ⟨cause, -, rfl, rfl, rfl⟩
  · obtain rfl := Dialogue.path_query_iff.mp observed
    have chosen : request.chosen? = some bot := by simp [chosen?, parsed, selected, Except.toOption]
    rcases reached with ⟨catalogue, offered, reached⟩ | ⟨stop, -, rfl, rfl, rfl⟩
    · have registered : catalogue = request.catalogue := by
        unfold RunRequest.catalogue
        cases given : Catalogue.ofOffers request.offers <;> simp_all [mapError_ok, mapError_error]
      have kept : (request.setup bot catalogue start.now).slots = request.slots := by
        simp [RunRequest.setup, slots, chosen]
      rcases reaches_bind.mp reached with ⟨⟨⟩, loading, ready, rest, loaded, answered, rfl⟩ |
        ⟨stop, loaded, rfl⟩
      · obtain ⟨told, runs, -, whole, same⟩ := loadVariables_reaches loaded
        rw [← List.append_assoc]
        have all := whole rfl
        rw [kept] at all
        exact answer_course chosen ⟨registered, kept⟩ ⟨told, runs⟩ all same answered
      · obtain ⟨told, runs, part, -, same⟩ := loadVariables_reaches loaded
        rw [kept] at part
        exact ⟨.done, .early _ same ⟨told, runs⟩ rfl part (by simp)⟩
    · exact ⟨.done, .early [] rfl ⟨rfl, rfl⟩ rfl (List.nil_prefix) (by simp)⟩
  · exact ⟨.done, .early [] rfl ⟨rfl, rfl⟩ rfl (List.nil_prefix) (by simp)⟩

/-- A run up to its result, with how it stands at each question. -/
def narrative (request : RunRequest) : Narrative Standing (Except Escape RunResult × List Event) :=
  match parseProgram request.source with
  | .error error => return request.reject error
  | .ok program =>
    match request.environment with
    | .error obstacle => return (.error (.unconvertible obstacle), [])
    | .ok env => do return request.conclude (← (Run.program request program).narrate (.initial env))

theorem plain_narrative (request : RunRequest) : request.narrative.plain = request.execute := by
  unfold narrative execute
  cases parseProgram request.source with
  | error error => rfl
  | ok program =>
    cases request.environment with
    | error obstacle => rfl
    | ok env => exact Narrative.plain_bind _ _

/-- How a run can go, turn by turn: its source is refused, or some data of the request has no value,
or its program runs. -/
inductive Unfolds (request : RunRequest) :
    List (Turn Standing) → Except Escape RunResult × List Event → Prop
  | refused {error : SyntaxError} (wrong : parseProgram request.source = .error error) :
      Unfolds request [] (request.reject error)
  | unconvertible {program : Program} {obstacle : Datum.Obstacle}
      (parsed : parseProgram request.source = .ok program)
      (unbound : request.environment = .error obstacle) :
      Unfolds request [] (.error (.unconvertible obstacle), [])
  | performed {program : Program} {env : Environment} {turns : List (Turn Standing)}
      {ended : Except Stop Unit} {after : RunState}
      (parsed : parseProgram request.source = .ok program) (bound : request.environment = .ok env)
      (taken : Takes (Run.program request program) (.initial env) turns ended after) :
      Unfolds request turns (request.conclude (ended, after))

variable {turns : List (Turn Standing)} {outcome : Except Escape RunResult × List Event}

theorem unfolds_of_narrative (path : request.narrative.Path turns outcome) :
    request.Unfolds turns outcome := by
  unfold narrative at path
  cases parsed : parseProgram request.source with
  | error error =>
    rw [parsed] at path
    obtain ⟨rfl, rfl⟩ := Narrative.path_done_iff.mp path
    exact .refused parsed
  | ok program =>
    rw [parsed] at path
    dsimp only at path
    cases bound : request.environment with
    | error obstacle =>
      rw [bound] at path
      obtain ⟨rfl, rfl⟩ := Narrative.path_done_iff.mp path
      exact .unconvertible parsed bound
    | ok env =>
      rw [bound] at path
      obtain ⟨⟨ended, after⟩, front, back, taken, concluding, rfl⟩ :=
        Narrative.path_bind_iff.mp path
      obtain ⟨rfl, rfl⟩ := Narrative.path_done_iff.mp concluding
      rw [List.append_nil]
      exact .performed parsed bound taken

theorem unfolds_of_execute (path : request.execute.Path asked outcome) :
    ∃ turns, request.Unfolds turns outcome ∧ asked = turns.map Turn.exchange := by
  rw [← plain_narrative] at path
  obtain ⟨turns, taken, rfl⟩ := Narrative.path_of_plain path
  exact ⟨turns, unfolds_of_narrative taken, rfl⟩

variable {result : RunResult} {journal : List Event}

/-- A result of a source that is refused reports why. -/
theorem reject_eq_ok {error : SyntaxError}
    (refused : request.reject error = (.ok result, journal)) :
    ∃ report : SyntaxReport, result = request.rejection ⟨report.kind, report.describe⟩ ∧
      journal = [.rejected request.metadata.runId report.describe] := by
  unfold reject at refused
  split at refused
  · cases refused
  · obtain ⟨shown, told⟩ := Prod.mk.inj refused
    exact ⟨_, (Except.ok.inj shown).symm, told.symm⟩

/-- A result shows the last state of a run that has ended well or with a fault. -/
theorem conclude_eq_ok {ended : Except Stop Unit} {after : RunState}
    (concluded : request.conclude (ended, after) = (.ok result, journal)) :
    (ended = .ok () ∧ result = request.resultOf none after ∧
        journal = after.journal ++
          [.runFinished request.metadata.runId (after.bot.getD "") after.handler result.status.name
          after.steps.length]) ∨
      ∃ (fault : Fault) (failure : RunFailure), ended = .error (.fault fault) ∧
        failure = ⟨fault.cause.kind, fault.describe⟩ ∧
        result = request.resultOf (some failure) after ∧
          journal =
            after.journal ++ [.runFailed request.metadata.runId failure.report after.bot] := by
  match ended with
  | .ok () =>
    obtain ⟨shown, told⟩ := Prod.mk.inj concluded
    obtain rfl := Except.ok.inj shown
    exact .inl ⟨rfl, rfl, told.symm⟩
  | .error (.fault fault) =>
    obtain ⟨shown, told⟩ := Prod.mk.inj concluded
    exact .inr ⟨fault, _, rfl, rfl, (Except.ok.inj shown).symm, told.symm⟩
  | .error (.escape escape) => cases concluded

/-- A run that comes to a result was refused for its source, without asking anything, or it took a
course that ends as the result says. -/
theorem execute_course (path : request.execute.Path asked (.ok result, journal)) :
    (∃ failure, asked = [] ∧ result = request.rejection failure) ∨
      ∃ ended after trail, request.Course asked ended after trail ∧
        ((ended = .ok () ∧ result = request.resultOf none after) ∨
          ∃ fault : Fault, ended = .error (.fault fault) ∧
            result = request.resultOf (some ⟨fault.cause.kind, fault.describe⟩) after) := by
  obtain ⟨turns, unfolds, rfl⟩ := unfolds_of_execute path
  generalize concluded : (Except.ok result, journal) = outcome at unfolds
  cases unfolds with
  | refused wrong =>
    obtain ⟨report, shown, -⟩ := reject_eq_ok concluded.symm
    exact .inl ⟨_, rfl, shown⟩
  | unconvertible parsed unbound => cases concluded
  | performed parsed bound taken =>
    obtain ⟨trail, course⟩ := program_course parsed taken.reaches
    refine .inr ⟨_, _, trail, course, ?_⟩
    rcases conclude_eq_ok concluded.symm with ⟨ended, shown, -⟩ | ⟨fault, _, ended, rfl, shown, -⟩
    · exact .inl ⟨ended, shown⟩
    · exact .inr ⟨fault, ended, shown⟩

end RunRequest

end BotScript
