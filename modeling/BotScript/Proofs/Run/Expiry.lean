import BotScript.Host.Scripted
import BotScript.Proofs.Run.Course
import BotScript.Proofs.Run.Overtime

/-! Whole runs whose time runs out. The time of a run can be over when it begins, and it can run out
whenever the host acts: a tool, the memory or the listener may let time pass or cancel the run. What
the result shows is how the run stood then. -/

namespace BotScript

namespace Run

variable {deadline : Option Deadline} {view : Environment → Environment} {α : Type}

open Dialogue (Failed failed_error)

theorem idles_env : Idles deadline view Anyhow env := by
  intro before turns result after taken _
  obtain ⟨rfl, rfl, rfl⟩ := takes_env.mp taken
  exact ⟨List.forall_mem_nil _, .refl view _, trivial⟩

theorem idles_evaluated_anyhow (value : Except Stop α) :
    Idles deadline view Anyhow (evaluated value) :=
  idles_evaluated trivial

section

variable {setup : Setup}

/-- Declared variables are bound when all of them have been read. -/
theorem halts_loadVariables : Halts setup.deadline view Anyhow (loadVariables setup) := by
  unfold loadVariables
  refine .host_bind (MemoryAccess.halts_hydrate _) (fun given => ?_) fun given failed => ?_
  · refine .behind (silent_evaluated _) fun values => Silent.halts (silent_of_reaches ?_) _
    intro before asked result after reached
    exact (forEach_onlyBinds values before asked result after reached).1
  · exact (idles_evaluated failed).failing.anyhow

theorem idles_loadVariables : Idles setup.deadline view Anyhow (loadVariables setup) := by
  unfold loadVariables
  cases listed : setup.slots with
  | nil =>
    have nothing : Dialogue.Idles setup.deadline (· = .ok []) (setup.memory.hydrate []) :=
      Dialogue.idles_done rfl
    refine .host_bind nothing fun given same => ?_
    subst same
    exact idles_pure trivial
  | cons slot rest =>
    refine .host_bind (MemoryAccess.idles_hydrate slot rest) fun given failed => ?_
    exact (idles_evaluated failed).failing.anyhow

theorem halts_answer (request : RunRequest) (bot : Bot) :
    Halts setup.deadline id Anyhow (answer request setup bot) := by
  unfold answer
  refine .behind silent_env fun env => .behind (silent_evaluated _) fun found => ?_
  cases found with
  | some listed => exact .behind (silent_modify _) fun _ => halts_execAll listed.2.body
  | none =>
    dsimp only
    split
    · exact (silent_modify _).halts _
    · exact (silent_throw _).halts _

theorem idles_answer (request : RunRequest) (bot : Bot) :
    Idles setup.deadline id Anyhow (answer request setup bot) := by
  unfold answer
  refine idles_env.bind (fun env _ => ?_) fun _ _ => trivial
  refine (idles_evaluated_anyhow _).bind (fun found _ => ?_) fun _ _ => trivial
  cases found with
  | some listed =>
    refine (idles_modify fun state => ?_).bind (fun _ _ => idles_execAll listed.2.body)
      fun _ _ => trivial
    exact ⟨rfl, rfl, rfl, rfl⟩
  | none =>
    dsimp only
    split
    · exact idles_modify fun state => .told id state _
    · exact (idles_evaluated (failed_error _)).anyhow

end

/-- How a run stood when the last of these turns was taken, or at its opening when there is none. -/
def standingAt (opening : RunState) (front : List (Turn Standing)) : Standing :=
  match front.getLast? with
  | some last => last.standing
  | none => ⟨opening, []⟩

/-- The time of a run has run out in the last of the turns in front, or it was over from the
beginning when there is none: every look at the time from there on shows it. -/
def OverSince (deadline : Option Deadline) (front back : List (Turn Standing)) : Prop :=
  OverIn deadline (front.getLast?.toList ++ back)

/-- What holds of a part whenever its time runs out. -/
theorem rests_since {part : Run α} {opening before after : RunState}
    {front back : List (Turn Standing)} {result : Except Stop α}
    (same : Rests id ⟨opening, []⟩ before) (halts : Halts deadline id Anyhow part)
    (idles : Idles deadline id Anyhow part) (taken : Takes part before (front ++ back) result after)
    (past : OverSince deadline front back) :
    IdleIn back ∧ Rests id (standingAt opening front) after := by
  rcases List.eq_nil_or_concat front with rfl | ⟨others, last, rfl⟩
  · obtain ⟨idle, rests, -⟩ := idles before back result after taken past
    exact ⟨idle, same.trans rests⟩
  · rw [List.concat_eq_append, List.append_assoc] at taken
    have since : OverIn deadline (last :: back) := by simpa [OverSince] using past
    obtain ⟨idle, rests, -⟩ := halts before others last back result after taken since
    refine ⟨idle, ?_⟩
    simpa [standingAt] using rests

end Run

namespace RunRequest

open Run

variable {request : RunRequest}

/-- The turns that a run takes with a host. -/
def turns {σ : Type} (request : RunRequest) (host : Host σ) (world : σ) : List (Turn Standing) :=
  request.narrative.turns host world

theorem turns_unfold {σ : Type} (request : RunRequest) (host : Host σ) (world : σ) :
    request.Unfolds (request.turns host world) (request.execute.run host world).1 := by
  have path := Narrative.run_path host request.narrative world
  rw [plain_narrative] at path
  exact unfolds_of_narrative path

/-- The questions of a run in its turns. -/
theorem exchanges_turns {σ : Type} (request : RunRequest) (host : Host σ) (world : σ) :
    request.execute.exchanges host world = (request.turns host world).map Turn.exchange := by
  have exchanged := Narrative.exchanges_plain host request.narrative world
  rw [plain_narrative] at exchanged
  exact exchanged

/-- The state in which a run begins: nothing has happened, and the input and the variables of the
caller are bound. -/
def opening (request : RunRequest) : RunState :=
  match parseProgram request.source, request.environment with
  | .ok _, .ok env => .initial env
  | _, _ => .initial .empty

/-- The deadline that a run sets when it first looks at the time. -/
def deadlineIn (request : RunRequest) : List (Turn Standing) → Option Deadline
  | ⟨_, ⟨.observe, start⟩⟩ :: _ => Deadline.start? request.settings.executionTimeout start.now
  | _ => none

/-- What follows the first look at the time. -/
private theorem start_rests {deadline : Option Deadline} {part : Run Unit}
    {opening started after : RunState} {start : Moment} {front back rest : List (Turn Standing)}
    {result : Except Stop Unit} (same : Rests id ⟨opening, []⟩ started)
    (halts : Halts deadline id Anyhow part) (idles : Idles deadline id Anyhow part)
    (whole : front ++ back = ⟨⟨started, []⟩, ⟨.observe, start⟩⟩ :: rest)
    (taken : Takes part started rest result after) (past : OverSince deadline front back) :
    IdleIn back ∧ Rests id (standingAt opening front) after := by
  cases front with
  | nil =>
    -- The time was over before the run began, so the first look shows it.
    subst whole
    obtain ⟨idle', rests, -⟩ := idles started rest result after taken fun turn member =>
      past turn (List.mem_cons_of_mem _ member)
    exact ⟨List.forall_mem_cons.mpr ⟨trivial, idle'⟩, same.trans rests⟩
  | cons first others =>
    obtain ⟨rfl, rfl⟩ := List.cons.inj whole
    cases others with
    | nil =>
      obtain ⟨idle', rests, -⟩ := idles started back result after taken fun turn member =>
        past turn (List.mem_cons_of_mem _ member)
      exact ⟨idle', rests⟩
    | cons second others =>
      have since : OverSince deadline (second :: others) back := by simpa [OverSince] using past
      have rests := rests_since same halts idles taken since
      simpa [standingAt] using rests

/-- The run of a program when its time runs out. -/
theorem program_rests {program : Program} {env : Environment} {front back : List (Turn Standing)}
    {result : Except Stop Unit} {after : RunState}
    (taken : Takes (Run.program request program) (.initial env) (front ++ back) result after)
    (past : OverSince (request.deadlineIn (front ++ back)) front back) :
    IdleIn back ∧ Rests id (standingAt (.initial env) front) after := by
  unfold Run.program at taken
  simp only [takes_checked_bind, takes_modify_bind, takes_host_bind] at taken
  rcases taken with ⟨bot, -, start, asked, rest, observed, taken, whole⟩ |
    ⟨cause, -, untaken, rfl, rfl⟩
  · obtain rfl := Dialogue.path_query_iff.mp observed
    have bound : Rests id ⟨.initial env, []⟩ { RunState.initial env with bot := some bot.name } :=
      ⟨rfl, rfl, rfl, rfl⟩
    rw [whole] at past
    refine start_rests bound ?_ ?_ whole taken past
    · refine .behind (silent_evaluated _) fun catalogue => ?_
      exact halts_loadVariables.bind (fun _ => halts_answer request bot)
        (fun _ _ => idles_answer request bot)
        fun _ _ => trivial
    · refine Idles.bind (idles_evaluated_anyhow _) (fun catalogue _ => ?_) fun _ _ => trivial
      exact idles_loadVariables.bind (fun _ _ => idles_answer request bot) fun _ _ => trivial
  · obtain ⟨rfl, rfl⟩ := List.append_eq_nil_iff.mp untaken
    exact ⟨List.forall_mem_nil _, .refl id _⟩

end RunRequest

/-- The result shows how a run stood at some time and nothing that came later: the same records up
to how their statements ended, the same output and transcript, and the variables with everything put
back that the open loops kept. -/
structure RunResult.StandsAt (result : RunResult) (standing : Standing) : Prop where
  steps : result.steps.map Step.begun = standing.state.steps.map Step.begun
  output : result.output = "\n".intercalate standing.state.output
  transcript : result.transcript = standing.state.transcript
  bindings : result.bindings = standing.restored.bindings

theorem Rests.standsAt {standing : Standing} {after : RunState} (rests : Rests id standing after)
    (request : RunRequest) (failure : Option RunFailure) :
    (request.resultOf failure after).StandsAt standing where
  steps := rests.steps
  output := congrArg ("\n".intercalate ·) rests.output
  transcript := rests.transcript
  bindings := congrArg Environment.bindings rests.env

/-- A source that is refused shows a run that has not begun. -/
theorem RunRequest.reject_standsAt {request : RunRequest} {error : SyntaxError} {result : RunResult}
    {journal : List Event} (refused : request.reject error = (.ok result, journal)) :
    result.StandsAt ⟨.initial .empty, []⟩ := by
  obtain ⟨report, rfl, -⟩ := reject_eq_ok refused
  exact ⟨rfl, rfl, rfl, rfl⟩

/-- The result of a run comes from its last state. -/
theorem RunRequest.conclude_state {request : RunRequest} {ended : Except Stop Unit}
    {after : RunState} {result : RunResult} {journal : List Event}
    (concluded : request.conclude (ended, after) = (.ok result, journal)) :
    ∃ failure, result = request.resultOf failure after := by
  rcases conclude_eq_ok concluded with ⟨-, shown, -⟩ | ⟨_, failure, -, -, shown, -⟩
  · exact ⟨none, shown⟩
  · exact ⟨some failure, shown⟩

/-- Nothing starts when the time of a run is over. Let the time run out while the host acts in the
last of the turns in front, or before the run begins when there is none, so that every look at the
time from there on shows that the run is cancelled or that the clock has reached its deadline. Then
in all later turns no tool and no memory is called, and the result shows how the run stood at that
time. -/
theorem RunRequest.execute_rests {σ : Type} (request : RunRequest) (host : Host σ) (world : σ)
    {front back : List (Turn Standing)} (cut : request.turns host world = front ++ back)
    (past : Run.OverSince (request.deadlineIn (front ++ back)) front back) :
    request.execute.exchanges host world = (front ++ back).map Turn.exchange ∧ Run.IdleIn back ∧
      ∀ result journal, (request.execute.run host world).1 = (.ok result, journal) →
        result.StandsAt (Run.standingAt request.opening front) := by
  have unfolds := request.turns_unfold host world
  refine ⟨by rw [exchanges_turns, cut], ?_⟩
  rw [cut] at unfolds
  generalize (request.execute.run host world).1 = concluded at unfolds
  generalize whole : front ++ back = taken at unfolds past
  unfold opening
  cases unfolds with
  | refused wrong =>
    obtain ⟨rfl, rfl⟩ := List.append_eq_nil_iff.mp whole
    rw [wrong]
    exact ⟨List.forall_mem_nil _, fun result journal refused => reject_standsAt refused⟩
  | unconvertible parsed unbound =>
    obtain ⟨rfl, rfl⟩ := List.append_eq_nil_iff.mp whole
    exact ⟨List.forall_mem_nil _, nofun⟩
  | performed parsed bound performed =>
    subst whole
    rw [parsed, bound]
    obtain ⟨idle, rests⟩ := program_rests performed past
    refine ⟨idle, fun result journal concluded => ?_⟩
    obtain ⟨failure, rfl⟩ := conclude_state concluded
    exact rests.standsAt request failure

/-- A request whose tool cancels the run inside two loops; the inner one goes over the variable of
the outer one. -/
def RunRequest.interrupted : RunRequest :=
  { alone
    "bot b on input set xs to [1, 2] loop x in xs loop x in xs set y to x call t with {} say y end end end end" with
    bindings := [("x", .text "outside")]
    offers := [.ofRecord "t" "" ""] }

/-- A host whose tool cancels the run. -/
def RunRequest.interruptedWorld : World :=
  { World.bare [⟨.ofRecord "t" "" "", false, true, [{ Action.agreeable with cancel := true }]⟩]
    with cancellable := true }

theorem RunRequest.interrupted_rests :
    ∃ front back, interrupted.turns World.host interruptedWorld = front ++ back ∧
      (Exchange.toolRuns (front.map Turn.exchange)).length = 1 ∧
      (Run.standingAt interrupted.opening front).aside.length = 2 ∧ back.length = 4 ∧
      Run.IdleIn back ∧
      ∃ result journal, (interrupted.execute.run World.host interruptedWorld).1 =
          (.ok result, journal) ∧
        result.bindings.map (fun binding => (binding.1, binding.2.shown)) =
          [("input", "\x7b\x7d"), ("x", "outside"), ("xs", "[1,2]"), ("y", "1")] ∧
        result.StandsAt (Run.standingAt interrupted.opening front) := by
  have cut := (List.take_append_drop 10 (interrupted.turns World.host interruptedWorld)).symm
  have stopped : (Exchange.toolRuns
        (((interrupted.turns World.host interruptedWorld).take 10).map Turn.exchange)).length = 1 ∧
      (Run.standingAt interrupted.opening
        ((interrupted.turns World.host interruptedWorld).take 10)).aside.length = 2 ∧
      ((interrupted.turns World.host interruptedWorld).drop 10).length = 4 ∧
      Run.OverSince
        (interrupted.deadlineIn ((interrupted.turns World.host interruptedWorld).take 10 ++
          (interrupted.turns World.host interruptedWorld).drop 10))
        ((interrupted.turns World.host interruptedWorld).take 10)
        ((interrupted.turns World.host interruptedWorld).drop 10) := by
    unfold Run.OverSince Run.OverIn
    decide +kernel
  obtain ⟨called, open', behind, past⟩ := stopped
  obtain ⟨-, idle, stands⟩ := execute_rests interrupted World.host interruptedWorld cut past
  refine ⟨_, _, cut, called, open', behind, idle, ?_⟩
  have shown : ((interrupted.execute.run World.host interruptedWorld).1.1.toOption.any fun result =>
      result.bindings.map (fun binding => (binding.1, binding.2.shown)) =
        [("input", "\x7b\x7d"), ("x", "outside"), ("xs", "[1,2]"), ("y", "1")]) = true := by
          decide +kernel
  obtain ⟨result, journal, concluded, shown⟩ := concluded_of_any shown
  exact ⟨result, journal, concluded, of_decide_eq_true shown, stands result journal concluded⟩

end BotScript
