import BotScript.Host.Scripted
import BotScript.Proofs.Check.Foreseen
import BotScript.Proofs.Run.Mirror

/-! Variables that outlive their run. Runs with one memory, one after the other, start from the
declared variables as the run before has left them, and what the memory holds in between is what was
left. -/

namespace BotScript

open Environment (IsPlain)
open Exchange (Served)
open Run (Takes)

/-- A run that stops has taken its turns, in which the store has answered for its memory. -/
theorem Run.takes_of_run {α σ : Type} {part : Run α} {before after : RunState}
    {result : Except Stop α} {host : Host σ} {world : σ} {store last : Store}
    (ran : (((part.outcome before).withStore store).run host world).1 = ((result, after), last)) :
    ∃ turns, Takes part before turns result after ∧
      Served store (turns.map Turn.exchange) last := by
  have path := Dialogue.run_path host ((part.outcome before).withStore store) world
  rw [ran] at path
  obtain ⟨asked, inner, served, -⟩ := Dialogue.path_withStore path
  obtain ⟨turns, taken, rfl⟩ := Narrative.path_of_plain inner
  exact ⟨turns, taken, served⟩

/-! ## Single runs -/

/-- What a run leaves for a declared variable: the value that it ends with, and the typed default in
the place of null. -/
def RunResult.left (result : RunResult) (slot : String × Slot) : Value :=
  MemoryAccess.orDefault slot.2 ((Entries.get? result.bindings slot.1).getD .null)

/-- A request that runs with a host and finds a memory. -/
structure Visit where
  request : RunRequest
  State : Type
  host : Host State
  world : State
  memory : Store

namespace Visit

/-- What becomes of a visit, and the memory behind it. -/
def outcome (visit : Visit) : (Except Escape RunResult × List Event) × Store :=
  ((visit.request.execute.withStore visit.memory).run visit.host visit.world).1

/-- The variables with which a visit chooses its handler, when it comes to that. -/
def start? (visit : Visit) : Option Environment :=
  match parseProgram visit.request.source, visit.request.environment with
  | .ok program, .ok env =>
    match ((((Run.prepare visit.request program).outcome (.initial env)).withStore
      visit.memory).run visit.host visit.world).1 with
    | ((.ok _, ready), _) => some ready.env
    | _ => none
  | _, _ => none

/-- A visit that ends well: its handler binds the declared variables only by setting them, and
nothing is remembered under the key of a slot. -/
structure Succeeds (visit : Visit) (slots : List (String × Slot)) (result : RunResult) : Prop where
  declares : visit.request.slots = slots
  ran : visit.outcome.1.1 = .ok result
  succeeded : result.success = true
  sets : ∀ bot index handler, visit.request.chosen? = some bot → result.handler = some index →
    bot.handlers[index]? = some handler → ∀ stmt ∈ handler.statements, ∀ name ∈ bot.memoryNames,
      stmt.bound? = some name → ∃ expr p, stmt = .set name expr p
  spares : Step.Spares slots result.steps

/-- What a visit keeps: every declared variable has the slot of its last declaration and is bound in
the end, and reading the slots from the memory behind the visit gives what the visit has left. -/
structure Keeps (visit : Visit) (slots : List (String × Slot)) (result : RunResult) : Prop where
  declared : ∀ bot, visit.request.chosen? = some bot → ∀ name ∈ bot.memoryNames, ∃ slot,
    Entries.get? slots name = some slot ∧ bot.lastSlot? visit.request.metadata name = some slot
  bound : ∀ slot ∈ slots, (Entries.get? result.bindings slot.1).isSome
  read : ∀ {τ : Type} (access : MemoryAccess) (host : Host τ) (world : τ), access.Unhindered host →
    (((access.hydrate slots).withStore visit.outcome.2).run host world).1 =
      (.ok (slots.map fun slot => (slot.1, result.left slot)), visit.outcome.2)

/-- A visit starts with the declared variables as another one has left them. -/
def StartsFrom (visit : Visit) (slots : List (String × Slot)) (earlier : RunResult) : Prop :=
  ∃ start, visit.start? = some start ∧ ∀ slot ∈ slots, start.get? slot.1 = some (earlier.left slot)

/-- Visits that end well, one after the other; each one finds the memory that the one before
leaves. -/
inductive Series (slots : List (String × Slot)) : Store → List (Visit × RunResult) → Prop
  | nil (store : Store) : Series slots store []
  | cons {store : Store} {visit : Visit} {result : RunResult} {rest : List (Visit × RunResult)}
      (found : visit.memory = store) (succeeds : visit.Succeeds slots result)
      (later : Series slots visit.outcome.2 rest) : Series slots store ((visit, result) :: rest)

/-! ## What a visit keeps -/

section

variable {σ : Type} {request : RunRequest} {host : Host σ} {world world' : σ}
  {store middle last : Store} {program : Program}
  {env : Environment} {ready : RunState}

/-- A run with a store of its own: what it does before it chooses its handler, and behind that the
answer to its event. -/
theorem execute_run {bot : Bot} {setup : Setup} {ended : Except Stop Unit} {after : RunState}
    (parsed : parseProgram request.source = .ok program) (bound : request.environment = .ok env)
    (prepared :
      (((Run.prepare request program).outcome (.initial env)).withStore store).run host world =
      (((.ok (bot, setup), ready), middle), world'))
    (answered :
      ((((Run.answer request setup bot).outcome ready).withStore middle).run host world').1 =
      ((ended, after), last)) :
    ((request.execute.withStore store).run host world).1 =
      (request.conclude (ended, after), last) := by
  unfold RunRequest.execute
  rw [parsed, bound]
  dsimp only
  rw [Dialogue.withStore_bind, Dialogue.run_bind, Run.program_eq, Run.outcome_bind,
    Dialogue.withStore_bind, Dialogue.run_bind, prepared]
  dsimp only
  rw [answered]
  rfl

/-- A run that stops before it chooses its handler. -/
theorem execute_run_stopped {stop : Stop}
    (parsed : parseProgram request.source = .ok program) (bound : request.environment = .ok env)
    (prepared :
      (((Run.prepare request program).outcome (.initial env)).withStore store).run host world =
      (((.error stop, ready), middle), world')) :
    ((request.execute.withStore store).run host world).1 =
      (request.conclude (.error stop, ready), middle) := by
  unfold RunRequest.execute
  rw [parsed, bound]
  dsimp only
  rw [Dialogue.withStore_bind, Dialogue.run_bind, Run.program_eq, Run.outcome_bind,
    Dialogue.withStore_bind, Dialogue.run_bind, prepared]
  rfl

/-- A run that succeeds has ended well. -/
theorem conclude_succeeds {ended : Except Stop Unit} {after : RunState} {result : RunResult}
    (concluded : (request.conclude (ended, after)).1 = .ok result)
    (succeeded : result.success = true) :
    ended = .ok () ∧ result = request.resultOf none after := by
  rcases RunRequest.conclude_eq_ok (Prod.ext concluded rfl) with ⟨ended, shown, -⟩ |
    ⟨_, _, -, -, rfl, -⟩
  · exact ⟨ended, shown⟩
  · cases succeeded

/-- Slots of a bot belong to plain names and have keys of their own. -/
theorem declares_of_parsed {source : String} {bot : Bot} (metadata : Metadata)
    (parsed : parseProgram source = .ok program) (among : bot ∈ program.bots) :
    Slot.Declares (Slot.ofBlocks metadata bot.memory) where
  plain name slot found :=
    (plain_of_parseProgram parsed bot among).declared name (Slot.mem_memoryNames.mpr ⟨slot, found⟩)
  apart _ _ _ _ found found' same := Slot.key_injective found found' same

/-- The answer to an event keeps the memory a mirror of the declared variables. -/
theorem answer_mirrors {bot : Bot} {setup : Setup} {after : RunState} {turns : List (Turn Standing)}
    (parsed : parseProgram request.source = .ok program) (among : bot ∈ program.bots)
    (fresh : ready.steps = [])
    (keyed : ready.env.WellKeyed) (declares : Slot.Declares setup.slots)
    (taken : Takes (Run.answer request setup bot) ready turns (.ok ()) after)
    (served : Served store (turns.map Turn.exchange) last)
    (sets : ∀ index handler, after.handler = some index → bot.handlers[index]? = some handler →
      ∀ stmt ∈ handler.statements, ∀ name slot, Entries.get? setup.slots name = some slot →
        stmt.bound? = some name → ∃ expr p, stmt = .set name expr p)
    (spares : Step.Spares setup.slots after.steps) (mirrors : Mirrors setup.slots ready.env store) :
    Mirrors setup.slots after.env last := by
  simp only [Run.answer, Run.takes_env_bind, Run.takes_evaluated_bind] at taken
  rcases taken with ⟨found, selected, taken⟩ | ⟨stop, -, -, impossible, -⟩
  · cases found with
    | some listed =>
      obtain ⟨index, handler⟩ := listed
      obtain ⟨offset, rfl, listed, -⟩ := Run.firstAccepting_listed selected
      have taken := Run.takes_modify_bind.mp taken
      have each :=
        (plain_of_parseProgram parsed bot among).handlers handler (List.mem_of_getElem? listed)
      have flow := (Run.flows_handler each).taken taken keyed
      obtain ⟨trail, adds, -⟩ := Run.execAll_follows setup handler.body _ _ _ after taken.reaches
      have chosen : after.handler = some offset :=
        adds.leaves.handler.trans (congrArg some (Nat.zero_add offset))
      refine flow.mirrors rfl (by rwa [exchanges_of_sights]) declares
        (fun stmt member name binds => ?_) ?_ mirrors
      · refine ⟨(each.statements stmt member).bound binds, fun slot kept => ?_⟩
        exact sets offset handler chosen listed stmt member name slot kept binds
      · -- the host is told of the same records that the state has in the end
        rw [exchanges_of_sights, adds.leaves.told]
        intro record member
        refine spares record ?_
        rw [adds.steps, fresh]
        exact trail.ends_perm_starts.subset member
    | none =>
      dsimp only at taken
      split at taken
      · obtain ⟨rfl, -, rfl⟩ := Run.takes_modify.mp taken
        rw [served.last_of_quiet rfl]
        exact mirrors
      · cases (Run.takes_throw.mp taken).2.1
  · cases impossible

end

variable {visit : Visit} {slots : List (String × Slot)} {result : RunResult}

/-- A visit whose run goes all the way: it is prepared while the memory that it has found serves it,
and what the memory is then serves the answer to its event. -/
structure Passes (visit : Visit) (program : Program) (env : Environment) (bot : Bot) (setup : Setup)
    (ready after : RunState) (middle : Store) : Prop where
  parsed : parseProgram visit.request.source = .ok program
  bound : visit.request.environment = .ok env
  started : visit.start? = some ready.env
  prepared : ∃ front, Run.Prepared visit.request program env front bot setup ready ∧
    Served visit.memory (front.map Turn.exchange) middle
  answered : ∃ back, Takes (Run.answer visit.request setup bot) ready back (.ok ()) after ∧
    Served middle (back.map Turn.exchange) visit.outcome.2

/-- The run of a visit goes all the way if it succeeds. -/
theorem passes_of_success (ran : visit.outcome.1.1 = .ok result)
    (succeeded : result.success = true) :
    ∃ program env bot setup ready after middle,
      visit.Passes program env bot setup ready after middle ∧
      result = visit.request.resultOf none after := by
  cases parsed : parseProgram visit.request.source with
  | error error =>
    unfold outcome RunRequest.execute at ran
    rw [parsed] at ran
    change (visit.request.reject error).1 = .ok result at ran
    obtain ⟨report, rfl, -⟩ := RunRequest.reject_eq_ok (Prod.ext ran rfl)
    cases succeeded
  | ok program =>
    cases bound : visit.request.environment with
    | error obstacle =>
      unfold outcome RunRequest.execute at ran
      rw [parsed, bound] at ran
      cases ran
    | ok env =>
      rcases prepared : (((Run.prepare visit.request program).outcome (.initial env)).withStore
        visit.memory).run visit.host visit.world with ⟨⟨⟨chosen, ready⟩, middle⟩, world⟩
      cases chosen with
      | error stop =>
        rw [outcome, execute_run_stopped parsed bound prepared] at ran
        cases (conclude_succeeds ran succeeded).1
      | ok pair =>
        obtain ⟨bot, setup⟩ := pair
        rcases answered :
          ((((Run.answer visit.request setup bot).outcome ready).withStore middle).run visit.host
          world).1 with ⟨⟨ended, after⟩, last⟩
        have became : visit.outcome = (visit.request.conclude (ended, after), last) :=
          execute_run parsed bound prepared answered
        rw [became] at ran
        obtain ⟨rfl, rfl⟩ := conclude_succeeds ran succeeded
        obtain ⟨front, begun, loading⟩ := Run.takes_of_run (congrArg Prod.fst prepared)
        obtain ⟨back, finished, serving⟩ := Run.takes_of_run answered
        rcases Run.prepare_takes begun with ⟨_, _, same, going⟩ | ⟨stop, impossible, -⟩
        · obtain ⟨rfl, rfl⟩ := Prod.mk.inj (Except.ok.inj same)
          have started : visit.start? = some ready.env := by
            unfold start?
            rw [parsed, bound]
            dsimp only
            rw [prepared]
          refine ⟨program, env, bot, setup, ready, after, middle, ?_, rfl⟩
          exact ⟨parsed, bound, started, ⟨front, going, loading⟩, back, finished,
            by rw [became]; exact serving⟩
        · cases impossible

/-- What a visit that succeeds goes through: it reads the declared variables from the memory and
binds them, and in the end the memory mirrors the variables. -/
theorem Succeeds.runs (succeeds : visit.Succeeds slots result) :
    ∃ (program : Program) (bot : Bot) (env after : Environment) (values : List (String × Value)),
      parseProgram visit.request.source = .ok program ∧ bot ∈ program.bots ∧
        visit.request.chosen? = some bot ∧
        slots = Slot.ofBlocks visit.request.metadata bot.memory ∧
        visit.memory.load slots = .ok values ∧
        visit.start? = some (env.bindValues values) ∧ result.bindings = after.bindings ∧
        Mirrors slots after visit.outcome.2 := by
  obtain ⟨rfl, ran, succeeded, sets, spares⟩ := succeeds
  obtain ⟨program, env, bot, setup, ready, after, middle, passes, rfl⟩ :=
    passes_of_success ran succeeded
  obtain ⟨parsed, bound, started, ⟨front, prepared, loading⟩, back, answered, serving⟩ := passes
  have keyed := prepared.wellKeyed bound
  obtain ⟨selected, ⟨catalogue, now, rfl⟩, moment, asked, values, path, exchanged, rfl⟩ := prepared
  have among := Run.mem_of_selectBot selected
  have picked : visit.request.chosen? = some bot := by
    simp [RunRequest.chosen?, parsed, selected, Except.toOption]
  have own : visit.request.slots = Slot.ofBlocks visit.request.metadata bot.memory := by
    rw [RunRequest.slots, picked]
  rw [exchanged] at loading
  cases loading with
  | other _ later =>
    obtain ⟨rfl, loaded⟩ := MemoryAccess.hydrate_served path later
    have declares := declares_of_parsed visit.request.metadata parsed among
    have distinct : Entries.Distinct (Slot.ofBlocks visit.request.metadata bot.memory) :=
      Entries.distinct_ofList _
    rw [own] at spares ⊢
    refine ⟨program, bot, env, after.env, values, parsed, among, picked, rfl, loaded,
      started, rfl, ?_⟩
    refine answer_mirrors parsed among rfl keyed declares answered serving ?_ spares
      (.of_load declares distinct loaded env)
    intro index handler chosen listed stmt member name slot kept binds
    have declared := Slot.mem_memoryNames.mpr ⟨slot, kept⟩
    exact sets bot index handler picked chosen listed stmt member name declared binds

/-- What a visit leaves for a declared variable, going by the variables in the end. -/
private theorem left_eq {after : Environment} {slot : String × Slot} (plain : IsPlain slot.1)
    (bindings : result.bindings = after.bindings) :
    MemoryAccess.orDefault slot.2 ((after.get? slot.1).getD .null) = result.left slot := by
  unfold Environment.get?
  rw [plain, RunResult.left, bindings]

/-- What the memory holds behind a visit is what the visit has left. -/
theorem Succeeds.load (succeeds : visit.Succeeds slots result) :
    visit.outcome.2.load slots = .ok (slots.map fun slot => (slot.1, result.left slot)) := by
  obtain ⟨program, bot, env, after, values, parsed, among, picked, rfl, -, -, bindings, mirrors⟩ :=
    succeeds.runs
  have distinct : Entries.Distinct (Slot.ofBlocks visit.request.metadata bot.memory) :=
    Entries.distinct_ofList _
  rw [mirrors.load distinct]
  refine congrArg Except.ok (List.map_congr_left fun slot member => ?_)
  have plain := (declares_of_parsed visit.request.metadata parsed among).plain slot.1 slot.2
    (Entries.get?_of_mem distinct member)
  rw [left_eq plain bindings]

theorem Succeeds.keeps (succeeds : visit.Succeeds slots result) : visit.Keeps slots result where
  declared bot chosen name member := by
    obtain ⟨-, picked, -, -, -, -, -, same, rfl, -⟩ := succeeds.runs
    obtain rfl := Option.some.inj (same.symm.trans chosen)
    obtain ⟨slot, found⟩ := Slot.mem_memoryNames.mp member
    exact ⟨slot, found, (Slot.get?_ofBlocks visit.request.metadata picked name).symm.trans found⟩
  bound slot member := by
    obtain ⟨program, bot, env, after, values, parsed, among, -, rfl, -, -, bindings, mirrors⟩ :=
      succeeds.runs
    have found := Entries.get?_of_mem (Entries.distinct_ofList _) member
    obtain ⟨value, -, bound, -⟩ := mirrors slot.1 slot.2 found
    have plain := (declares_of_parsed visit.request.metadata parsed among).plain slot.1 slot.2 found
    rw [Environment.get?, plain] at bound
    rw [bindings, bound]
    rfl
  read access host world unhindered := by
    rw [MemoryAccess.hydrate_run unhindered, succeeds.load]
    rfl

/-- A visit that finds the memory of another one starts with what that one has left. -/
theorem Succeeds.startsFrom {earlier : Visit} {left : RunResult}
    (succeeds : visit.Succeeds slots result) (before : earlier.Succeeds slots left)
    (found : visit.memory = earlier.outcome.2) : visit.StartsFrom slots left := by
  obtain ⟨program, bot, env, after, values, parsed, among, -, rfl, loaded, starts, -, -⟩ :=
    succeeds.runs
  rw [found, before.load] at loaded
  obtain rfl := Except.ok.inj loaded
  have distinct : Entries.Distinct (Slot.ofBlocks visit.request.metadata bot.memory) :=
    Entries.distinct_ofList _
  have declares := declares_of_parsed visit.request.metadata parsed among
  refine ⟨_, starts, fun slot member => Mirrors.get?_bindValues ?_ ?_ (List.mem_map_of_mem member)⟩
  · intro pair among
    obtain ⟨other, listed, rfl⟩ := List.mem_map.mp among
    exact declares.plain other.1 other.2 (Entries.get?_of_mem distinct listed)
  · simpa [Entries.Distinct, Entries.keys, Function.comp_def] using distinct

/-- Along every series of visits that end well, the memory behind a visit holds the declared
variables as the visit has left them, null replaced by the typed default, and the next visit starts
with them. A name that is declared several times has the slot of its last declaration. -/
theorem series_persists {store : Store} {visits : List (Visit × RunResult)}
    (series : Series slots store visits) :
    (∀ visit ∈ visits, visit.1.Keeps slots visit.2) ∧
      visits.IsChain fun earlier later => later.1.StartsFrom slots earlier.2 := by
  induction series with
  | nil store => exact ⟨List.forall_mem_nil _, .nil⟩
  | @cons store visit result rest found succeeds later ih =>
    obtain ⟨keeps, chain⟩ := ih
    refine ⟨List.forall_mem_cons.mpr ⟨succeeds.keeps, keeps⟩, ?_⟩
    cases later with
    | nil => exact .singleton _
    | cons behind following _ =>
      exact List.isChain_cons_cons.mpr ⟨following.startsFrom succeeds behind, chain⟩

/-! ## Visits that end well -/

/-- The visit ends well: a check of its result and of the handlers of its bot. -/
def endsWell (visit : Visit) : Bool :=
  match visit.outcome.1.1, visit.request.chosen? with
  | .ok result, some bot =>
    result.success &&
      (bot.handlers.all fun handler => handler.statements.all fun stmt =>
        match stmt with
        | .set .. => true
        | other => !other.bound?.any bot.memoryNames.contains) &&
      result.steps.all fun record => record.kind ≠ .remember ||
        visit.request.slots.all fun slot => record.noted? "key" ≠ some slot.2.key
  | _, _ => false

/-- What the check finds. -/
theorem succeeds_of_endsWell (well : visit.endsWell = true) :
    ∃ result, visit.Succeeds visit.request.slots result := by
  unfold endsWell at well
  split at well
  · rename_i result bot ran chosen
    simp only [Bool.and_eq_true] at well
    obtain ⟨⟨succeeded, sets⟩, spares⟩ := well
    refine ⟨result, rfl, ran, succeeded, ?_, ?_⟩
    · intro bot' index handler same _ listed stmt member name declared binds
      obtain rfl := Option.some.inj (chosen.symm.trans same)
      have all := List.all_eq_true.mp
        (List.all_eq_true.mp sets handler (List.mem_of_getElem? listed)) stmt member
      split at all
      · rename_i target expr p
        obtain rfl : target = name := Option.some.inj binds
        exact ⟨expr, p, rfl⟩
      · rw [binds] at all
        simp [declared] at all
    · intro record member kind name slot found noted
      have all := List.all_eq_true.mp spares record member
      have spared : ∀ name slot, (name, slot) ∈ visit.request.slots →
          record.noted? "key" ≠ some slot.key := by
        simpa [kind] using all
      exact spared name slot (Entries.mem_of_get? found) noted
  · cases well

/-- A visit to a bot that declares a variable twice and sets it to null. -/
def opening : Visit where
  request :=
    { RunRequest.alone
      "bot b memory user var y end memory session var y: int var x: list end on input set y to 2 set x to null end end" with
      connected := true }
  State := World
  host := World.host
  world := World.bare []
  memory := ⟨[("session:local-bot:x", .list [.integer 1])]⟩

/-- A visit to the same bot and with the memory behind the first one. -/
def resumed : Visit :=
  { opening with memory := opening.outcome.2 }

theorem resumed_persists :
    ∃ one two : RunResult,
      Series opening.request.slots opening.memory [(opening, one), (resumed, two)] ∧
      opening.Keeps opening.request.slots one ∧ resumed.StartsFrom opening.request.slots one ∧
      (resumed.start?.map fun start => ["x", "y"].map fun name =>
        (start.get? name).map Value.shown) =
        some [some "[]", some "2"] := by
  have checked : opening.endsWell = true ∧ resumed.endsWell = true ∧
      (resumed.start?.map fun start => ["x", "y"].map fun name =>
        (start.get? name).map Value.shown) =
        some [some "[]", some "2"] := by decide +kernel
  obtain ⟨first, second, shown⟩ := checked
  obtain ⟨one, well⟩ := succeeds_of_endsWell first
  obtain ⟨two, later⟩ := succeeds_of_endsWell second
  have series : Series opening.request.slots opening.memory [(opening, one), (resumed, two)] :=
    .cons rfl well (.cons rfl later (.nil _))
  obtain ⟨keeps, chain⟩ := series_persists series
  exact ⟨one, two, series, keeps _ List.mem_cons_self, (List.isChain_cons_cons.mp chain).1, shown⟩

end Visit

end BotScript
