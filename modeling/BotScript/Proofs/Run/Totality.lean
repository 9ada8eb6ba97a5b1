import BotScript.Host.Scripted
import BotScript.Proofs.Run.Contained
import BotScript.Proofs.Run.Course
import BotScript.Proofs.Tool.Resolution

/-! Every run comes to a result. Whatever goes wrong in the program, in its tools and in the memory
becomes a failure that the result reports; only mistakes of the caller, which a request can be
checked for, end a run without a result. -/

namespace BotScript

/-- A request without mistakes of the caller: the digits of its source can be converted, its input
and its variables have values, and its tools are tools. -/
structure RunRequest.Sound (request : RunRequest) : Prop where
  digits : Number.Convertible request.source.toList
  input : request.input.obstacle? = none
  bindings : ∀ binding ∈ request.bindings, binding.2.obstacle? = none
  tools : ∀ offer ∈ request.offers, offer.IsTool

namespace RunResult

/-- A field of a result as hosts see it. -/
def field? (timed : Bool) (result : RunResult) (name : String) : Option Value :=
  match result.data timed with
  | .object entries => Entries.get? entries name
  | _ => none

/-- The fields of a result agree on how the run ended. -/
structure Consistent (result : RunResult) (timed : Bool) : Prop where
  failed : result.field? timed "success" = some (.boolean false) ↔
      result.field? timed "status" = some (.text "failed")
  error : (result.field? timed "error").isSome ↔
      result.field? timed "success" = some (.boolean false)
  kind : (result.field? timed "error_kind").isSome ↔
      result.field? timed "success" = some (.boolean false)
  empty : result.field? timed "success" = some (.boolean true) ∧
    result.field? timed "output" = some (.text "") ↔
    result.field? timed "status" = some (.text "empty_output")

/-- A result shows no trace of any statement. -/
structure Blank (result : RunResult) : Prop where
  steps : result.steps = []
  transcript : result.transcript = []
  bindings : result.bindings = []
  output : result.output = ""
  bot : result.bot = none
  handler : result.handler = none

variable (result : RunResult) (timed : Bool)

theorem field?_success : result.field? timed "success" = some (.boolean result.success) := rfl

theorem field?_status : result.field? timed "status" = some (.text result.status.name) := rfl

theorem field?_output : result.field? timed "output" = some (.text result.output) := rfl

theorem field?_error :
    result.field? timed "error" = result.failure.map fun failure => .text failure.report := by
  obtain ⟨failure, -⟩ := result
  cases failure <;> cases timed <;> rfl

theorem field?_kind :
    result.field? timed "error_kind" =
      result.failure.map fun failure => .text failure.kind.name := by
  obtain ⟨failure, -⟩ := result
  cases failure <;> cases timed <;> rfl

/-- The fields of every result agree. -/
theorem consistent : result.Consistent timed := by
  have told (b : Bool) : result.field? timed "success" = some (.boolean b) ↔
      result.success = b := by
    simp [field?_success]
  have named (status : RunStatus) : result.field? timed "status" = some (.text status.name) ↔
      result.status = status := by
    rw [field?_status, Option.some.injEq, Value.text.injEq]
    constructor
    · cases result.status <;> cases status <;> decide
    · exact congrArg RunStatus.name
  have silent : result.field? timed "output" = some (.text "") ↔ result.output = "" := by
    simp [field?_output]
  refine ⟨(told false).trans (.trans ?_ (named .failed).symm), .trans ?_ (told false).symm,
    .trans ?_ (told false).symm,
    (and_congr (told true) silent).trans (.trans ?_ (named .emptyOutput).symm)⟩
  · cases outcome : result.failure <;> simp [success, status, outcome]
    split <;> simp
  · cases outcome : result.failure <;> simp [success, field?_error, outcome]
  · cases outcome : result.failure <;> simp [success, field?_kind, outcome]
  · cases outcome : result.failure <;> simp [success, status, outcome]

end RunResult

/-! ## Mistakes of the caller -/

theorem Environment.bindAll_of_values {bindings : List (String × Datum)}
    (values : ∀ binding ∈ bindings, binding.2.obstacle? = none) (env : Environment) :
    ∃ bound, env.bindAll bindings = .ok bound := by
  induction bindings generalizing env with
  | nil => exact ⟨env, rfl⟩
  | cons binding rest ih =>
    obtain ⟨bound, same⟩ := ih (fun other member => values other (List.mem_cons_of_mem _ member))
      (env.bind binding.1 binding.2.toValue)
    refine ⟨bound, ?_⟩
    rw [bindAll, Datum.convert_of_value (values binding List.mem_cons_self)]
    exact same

theorem RunRequest.inputMapping_of_value {input : Datum} (fine : input.obstacle? = none) :
    (inputMapping input).obstacle? = none := by
  unfold inputMapping
  split
  · rfl
  · exact fine
  · simp [Datum.obstacle?, Datum.entriesObstacle?, fine]

namespace RunRequest

variable {request : RunRequest}

/-- The variables of a sound request have values. -/
theorem Sound.environment (sound : request.Sound) : ∃ env, request.environment = .ok env := by
  have input : inputValue request.input = .ok (inputMapping request.input).toValue :=
    Datum.convert_of_value (inputMapping_of_value sound.input)
  obtain ⟨env, bound⟩ := Environment.bindAll_of_values sound.bindings
    (Environment.empty.bind "input" (inputMapping request.input).toValue)
  refine ⟨env, ?_⟩
  rw [RunRequest.environment, input]
  exact bound

/-- The program of a sound request has readable expressions. -/
theorem Sound.readable (sound : request.Sound) {program : Program}
    (parsed : parseProgram request.source = .ok program) :
    program.Each (fun _ => True) Expr.Readable :=
  Reading.spelling_counted.program (Number.convertible_iff.mp sound.digits) parsed

/-- What is wrong with the source of a sound request is reported. -/
theorem Sound.report (sound : request.Sound) {error : SyntaxError}
    (wrong : parseProgram request.source = .error error) :
    ∃ report, error.report = .ok report := by
  unfold parseProgram tokenize at wrong
  split at wrong
  · obtain rfl := Except.error.inj wrong
    exact ⟨_, rfl⟩
  · rename_i stream scanned
    have decimal := Token.decimal_of_scan (Number.convertible_iff.mp sound.digits) scanned
    cases read : Reading.program stream.tokens with
    | ok whole =>
      rw [read] at wrong
      cases wrong
    | error failure =>
      have decided := Reading.program_decides stream.tokens
      rw [read] at wrong decided
      obtain ⟨complaint, rfl⟩ := decided.2 decimal
      obtain rfl := Except.error.inj wrong
      exact ⟨_, rfl⟩

end RunRequest

/-! ## Whole runs -/

namespace Run

variable {request : RunRequest}

theorem contained_loadVariables (setup : Setup) : Contained (loadVariables setup) := by
  unfold loadVariables
  refine .host_bind fun asked given path converts => ?_
  refine .evaluated_bind (MemoryAccess.hydrate_reported path converts) fun values _ => ?_
  exact .forEach (fun pair => contained_modify _) values

theorem firstAccepting_reported {handlers : List Handler}
    (readable : ∀ handler ∈ handlers, handler.Each (fun _ => True) Expr.Readable)
    (env : Environment) (event : String) (index : Nat) :
    Reported (Bot.firstAccepting env event index handlers) := by
  induction handlers generalizing index with
  | nil => exact .ok none
  | cons handler rest ih =>
    have accepted : Reported (Bot.accepts env event handler) := by
      unfold Bot.accepts
      split
      · exact .ok false
      · split
        · exact .ok true
        · rename_i guard guarded
          exact ((readable handler List.mem_cons_self).guard guard guarded).condition_reported _
    rw [Bot.firstAccepting]
    refine accepted.bind fun holds _ => ?_
    split
    · exact .ok _
    · exact ih (fun other member => readable other (List.mem_cons_of_mem _ member)) _

/-- The handler that answers an event is one of the bot. -/
theorem contained_answer {setup : Setup} {bot : Bot}
    (readable : ∀ handler ∈ bot.handlers, handler.Each (fun _ => True) Expr.Readable) :
    Contained (answer request setup bot) := by
  unfold answer
  refine .env_bind fun env => .evaluated_bind (firstAccepting_reported readable env _ 0)
    fun found selected => ?_
  cases found with
  | some listed =>
    obtain ⟨index, handler⟩ := listed
    obtain ⟨offset, -, listed, -⟩ := firstAccepting_listed selected
    have each := readable handler (List.mem_of_getElem? listed)
    exact .modify_bind (contained_execAll fun stmt member => contained_exec (each.body stmt member))
  | none =>
    dsimp only
    split
    · exact contained_modify _
    · exact contained_fault _

theorem mem_of_selectBot {program : Program} {settings : Settings} {name : Option String}
    {bot : Bot} (selected : program.selectBot settings name = .ok bot) : bot ∈ program.bots := by
  unfold Program.selectBot at selected
  split at selected
  · split at selected
    · rename_i found
      obtain rfl := Except.ok.inj selected
      exact List.mem_of_find?_eq_some found
    · cases selected
  · split at selected
    · rename_i only
      obtain rfl := Except.ok.inj selected
      simp [only]
    · rename_i first others _ all
      split at selected
      · cases selected
      · obtain rfl := Except.ok.inj selected
        simp [all]
    · cases selected

/-- The run of a program with readable expressions and with tools stops only with a report. -/
theorem contained_program {program : Program}
    (readable : program.Each (fun _ => True) Expr.Readable)
    (tools : ∀ offer ∈ request.offers, offer.IsTool) : Contained (Run.program request program) := by
  obtain ⟨catalogue, registered, -⟩ := Catalogue.ofOffers_finds tools
  unfold Run.program
  refine .checked_bind fun bot selected => .modify_bind (.host_bind fun asked start _ _ => ?_)
  rw [registered]
  refine .evaluated_bind (.ok catalogue) fun known _ => ?_
  exact (contained_loadVariables _).bind fun _ =>
    contained_answer (readable bot (mem_of_selectBot selected)).handlers

end Run

/-- A sound request comes to a result, whatever its host does: the tools, the clock, the
cancellation, the listener and the memory, as long as data in the memory has values. The fields of
the result agree, and a source that is no program leaves no trace and is refused before the host is
asked for anything. -/
theorem RunRequest.execute_total {σ : Type} (request : RunRequest) (host : Host σ) (world : σ)
    (sound : request.Sound)
    (converts : ∀ exchange ∈ request.execute.exchanges host world, exchange.Converts) :
    ∃ result journal, (request.execute.run host world).1 = (.ok result, journal) ∧
      (∀ timed, result.Consistent timed) ∧
      ∀ error, parseProgram request.source = .error error →
        result.success = false ∧ result.Blank ∧ request.execute.exchanges host world = [] := by
  have path := Dialogue.run_path host request.execute world
  generalize (request.execute.run host world).1 = concluded at path
  generalize request.execute.exchanges host world = asked at path converts
  obtain ⟨turns, unfolds, rfl⟩ := unfolds_of_execute path
  cases unfolds with
  | refused wrong =>
    obtain ⟨report, reported⟩ := sound.report wrong
    rw [reject, reported]
    exact ⟨_, _, rfl, RunResult.consistent _, fun _ _ => ⟨rfl, ⟨rfl, rfl, rfl, rfl, rfl, rfl⟩, rfl⟩⟩
  | unconvertible parsed unbound =>
    obtain ⟨env, bound⟩ := sound.environment
    cases unbound.symm.trans bound
  | @performed _ _ _ ended after parsed bound taken =>
    have contained :=
      Run.contained_program (sound.readable parsed) sound.tools _ _ _ _ taken.reaches converts
    have accepted : ¬ ∃ error, parseProgram request.source = .error error := parsed ▸ not_failed
    cases ended with
    | ok finished =>
      exact ⟨_, _, rfl, RunResult.consistent _, fun _ wrong => absurd ⟨_, wrong⟩ accepted⟩
    | error stop =>
      cases stop with
      | fault fault =>
        exact ⟨_, _, rfl, RunResult.consistent _, fun _ wrong => absurd ⟨_, wrong⟩ accepted⟩
      | escape escape => exact absurd trivial (contained _ rfl)

/-- A request whose tool raises an error behind a read of the memory. -/
def RunRequest.unlucky : RunRequest :=
  { alone "bot b on input set xs to [1, 2] recall xs.1 call t with {} say xs end end" with
    input := .tuple [.integer 1]
    offers := [.ofRecord "t" "" ""]
    connected := true }

/-- A host with the tool that raises. -/
def RunRequest.unluckyWorld : World :=
  .bare [⟨.ofRecord "t" "" "", false, true,
    [⟨none, false, false, .raises (.other "KeyError" "k")⟩]⟩]

/-- A request whose source breaks off. -/
def RunRequest.brokenOff : RunRequest :=
  { unlucky with source := "bot b on input say" }

theorem RunRequest.unlucky_sound : unlucky.Sound where
  digits := by decide +kernel
  input := by decide
  bindings := List.forall_mem_nil _
  tools := fun offer member => ⟨"t", by simp_all [unlucky, Offer.ofRecord], by decide,
    by simp_all [unlucky, Offer.ofRecord]⟩

theorem RunRequest.brokenOff_sound : brokenOff.Sound :=
  ⟨by decide +kernel, unlucky_sound.input, unlucky_sound.bindings, unlucky_sound.tools⟩

theorem RunRequest.unlucky_total :
    (∃ result journal, (unlucky.execute.run World.host unluckyWorld).1 = (.ok result, journal) ∧
      result.field? false "error_kind" = some (.text "ToolExecutionError") ∧
      result.Consistent false) ∧
    ∃ result journal, (brokenOff.execute.run World.host unluckyWorld).1 = (.ok result, journal) ∧
      result.success = false ∧ result.Blank ∧
      brokenOff.execute.exchanges World.host unluckyWorld = [] := by
  have failed : ((unlucky.execute.run World.host unluckyWorld).1.1.toOption.any fun result =>
      result.failure.map RunFailure.kind = some .toolExecution) = true := by decide +kernel
  have wrong : (parseProgram brokenOff.source).toOption.isNone = true := by decide +kernel
  constructor
  · obtain ⟨result, journal, concluded, consistent, -⟩ :=
      execute_total unlucky World.host unluckyWorld unlucky_sound (by decide +kernel)
    rw [concluded] at failed
    obtain ⟨failure, blamed, kind⟩ := Option.map_eq_some_iff.mp (of_decide_eq_true failed)
    refine ⟨result, journal, concluded, ?_, consistent false⟩
    rw [RunResult.field?_kind, blamed, Option.map_some, kind]
    rfl
  · obtain ⟨result, journal, concluded, -, blank⟩ :=
      execute_total brokenOff World.host unluckyWorld brokenOff_sound (by decide +kernel)
    cases parsed : parseProgram brokenOff.source with
    | ok program =>
      rw [parsed] at wrong
      cases wrong
    | error error => exact ⟨result, journal, concluded, blank error parsed⟩

/-- A request that is sound but for its input, which asks to be noticed instead of being
converted. -/
def RunRequest.signaling : RunRequest :=
  { alone "bot b on input say 1 end end" with input := .decimal (.nan false true 0) }

/-- Data without a value in the place of the input ends the run without a result. -/
theorem RunRequest.signaling_escapes :
    Number.Convertible signaling.source.toList ∧ signaling.bindings = [] ∧ signaling.offers = [] ∧
      (∀ exchange ∈ signaling.execute.exchanges World.host (.bare []), exchange.Converts) ∧
      ¬ ∃ result journal, (signaling.execute.run World.host (.bare [])).1 =
        (.ok result, journal) := by
  have escaped : (signaling.execute.run World.host (.bare [])).1.1.toOption.isNone = true := by
    decide +kernel
  refine ⟨by decide +kernel, rfl, rfl, by decide +kernel, ?_⟩
  rintro ⟨result, journal, concluded⟩
  rw [concluded] at escaped
  cases escaped

end BotScript
