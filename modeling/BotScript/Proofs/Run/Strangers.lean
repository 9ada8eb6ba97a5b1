import BotScript.Proofs.Memory.Owners
import BotScript.Proofs.Run.Gathered
import BotScript.Proofs.Run.Mirror
import BotScript.Proofs.Run.Normal

/-! Runs of strangers that share a memory. What a run writes to its declared variables goes under
their keys, and no stranger's variable has one of these. So whatever strangers set, in whatever
order the calls of all the runs follow each other, a run starts with its own variables. -/

namespace BotScript

open Exchange (memoryCalls Served)
open Lexer (IsIdentifier)
open Run (Takes)

/-- What is read of a store behind some calls comes from those that change it. -/
theorem Store.get_after_congr {store : Store} {calls others : List MemoryCall} {key : String}
    (same : MemoryCall.changing key calls = MemoryCall.changing key others) :
    (store.after calls).get key = (store.after others).get key := by
  have found : (store.after calls).find? key = (store.after others).find? key := by
    rw [find?_after, find?_after, same]
  exact congrArg (fun datum : Option Datum => datum.getD .null) found

/-! ## What is read -/

/-- A store that is not called serves as it is. -/
theorem Exchange.Served.of_quiet {store : Store} {asked : List Exchange}
    (quiet : ∀ exchange ∈ asked, exchange.memoryCall? = none) : Served store asked store := by
  induction asked with
  | nil => exact .done store
  | cons exchange rest ih =>
    obtain ⟨apart, others⟩ := List.forall_mem_cons.mp quiet
    exact .other apart (ih others)

namespace MemoryAccess

open Dialogue

variable {access : MemoryAccess} {asked : List Exchange}

/-- A read that succeeds asks for the key once, and its value is that of the data which are
returned. -/
theorem read_answer {key : String} {value : Value}
    (path : Path (access.read key) asked (.ok value)) :
    ∃ front back completion, asked = front ++ ⟨.memory (.get key), completion⟩ :: back ∧
      ∀ datum, completion = .returned datum → datum.convert = .ok value := by
  have single : memoryCalls asked = [.get key] := by simpa using (read_path path).calls
  obtain ⟨front, ⟨query, completion⟩, back, rfl, before, call, behind⟩ :=
    List.filterMap_eq_cons_iff.mp single
  obtain rfl : query = .memory (.get key) := by
    cases query <;> cases call
    rfl
  refine ⟨front, back, completion, rfl, ?_⟩
  rintro datum rfl
  -- the answer is that of a store which holds nothing else
  have served : Served ⟨[(key, datum)]⟩ (front ++ ⟨.memory (.get key), .returned datum⟩ :: back)
      ⟨[(key, datum)]⟩ := by
    refine Served.append_iff.mpr ⟨_, .of_quiet before, Served.call_iff.mpr ⟨?_, .of_quiet ?_⟩⟩
    · simp [Store.serve, Store.get, Entries.get?]
    · exact List.filterMap_eq_nil_iff.mp behind
  simpa [Store.get, Entries.get?] using (read_served path served).2

/-- Every declared variable is asked for, and its value is that of the data which are returned. -/
theorem hydrate_answers {slots : List (String × Slot)} {values : List (String × Value)}
    (path : Path (access.hydrate slots) asked (.ok values)) :
    ∀ slot ∈ slots, ∃ front back completion kept,
      asked = front ++ ⟨.memory (.get slot.2.key), completion⟩ :: back ∧
        (∀ datum, completion = .returned datum → datum.convert = .ok kept) ∧
        (slot.1, orDefault slot.2 kept) ∈ values := by
  induction slots generalizing asked values with
  | nil => exact List.forall_mem_nil _
  | cons slot rest ih =>
    obtain ⟨given, front, back, first, later, rfl⟩ := path_bind_iff.mp path
    cases given with
    | error stop => cases (path_pure_iff.mp later).2
    | ok value =>
      obtain ⟨others, front', back', more, ended, rfl⟩ := path_bind_iff.mp later
      cases others with
      | error stop => cases (path_pure_iff.mp ended).2
      | ok values =>
        obtain ⟨rfl, same⟩ := path_pure_iff.mp ended
        obtain rfl := Except.ok.inj same
        refine List.forall_mem_cons.mpr ⟨?_, fun other member => ?_⟩
        · obtain ⟨before, behind, completion, rfl, converts⟩ := read_answer first
          exact ⟨before, _, completion, _, List.append_assoc _ _ _, converts, List.mem_cons_self⟩
        · obtain ⟨before, behind, completion, kept, rfl, converts, among⟩ := ih more other member
          refine ⟨front ++ before, behind ++ [], completion, kept, ?_, converts,
            List.mem_cons_of_mem _ among⟩
          simp

end MemoryAccess

/-! ## What is written -/

/-- Statements that remember nothing write to the slots of the variables that they set, and nowhere
else. -/
theorem Flow.writes {setup : Setup} {stmts : List Stmt} {env after : Environment}
    {sights : List (Turn Environment)} {result : Except (Option Cause) Unit}
    (flow : Flow setup stmts env sights result after)
    (forgets : ∀ key item mode p, .remember key item mode p ∉ stmts) :
    ∀ call ∈ memoryCalls (sights.map Turn.exchange), call.writes = true → ∃ name expr p slot value,
      .set name expr p ∈ stmts ∧ Entries.get? setup.slots name = some slot ∧
      call = .set slot.key value := by
  induction flow with
  | still | fails | binds => exact List.forall_mem_nil _
  | looks apart =>
    have quiet : memoryCalls [_] = [] := List.filterMap_cons_none apart
    rw [List.map_singleton, quiet]
    exact List.forall_mem_nil _
  | calls _ path =>
    rw [exchanges_of_asked, (ToolCall.perform_path path).calls]
    exact List.forall_mem_nil _
  | @saves env name expr p slot value asked given member kept _ path =>
    rw [exchanges_of_asked]
    rcases (MemoryAccess.write_path path).calls with once | ⟨never, -⟩
    · rw [once]
      exact List.forall_mem_singleton.mpr fun _ => ⟨name, expr, p, slot, value, member, kept, rfl⟩
    · rw [never]
      exact List.forall_mem_nil _
  | remembers member | refused member => exact absurd member (forgets _ _ _ _)
  | reads path =>
    rw [exchanges_of_asked]
    rcases (MemoryAccess.read_path path).calls with once | ⟨never, -⟩
    · rw [once]
      exact List.forall_mem_singleton.mpr nofun
    · rw [never]
      exact List.forall_mem_nil _
  | loops _ _ ih => exact ih
  | thens _ _ ihFirst ihLater =>
    rw [List.map_append, Exchange.memoryCalls_append]
    exact List.forall_mem_append.mpr ⟨ihFirst, ihLater⟩
  | behind _ apart _ ih =>
    have quiet : memoryCalls [_] = [] := List.filterMap_cons_none apart
    rw [List.map_append, Exchange.memoryCalls_append, List.map_singleton, quiet, List.append_nil]
    exact ih

/-- Up to the choice of its handler a run writes nothing. -/
theorem Run.prepare_reads_only {request : RunRequest} {program : Program} {env : Environment}
    {turns : List (Turn Standing)} {given : Except Stop (Bot × Setup)} {ready : RunState}
    (taken : Takes (Run.prepare request program) (.initial env) turns given ready) :
    ∀ call ∈ memoryCalls (turns.map Turn.exchange), call.writes = false := by
  intro call member
  obtain ⟨key, rfl⟩ := (prepare_looks taken).2.2.1 call member
  rfl

namespace RunRequest

variable {request : RunRequest} {asked : List Exchange} {name : String} {slot : Slot}

/-- The slots of a request are those of the bot that it runs. -/
theorem slot_declared (found : Entries.get? request.slots name = some slot) : ∃ program bot,
    parseProgram request.source = .ok program ∧
      program.selectBot request.settings request.bot = .ok bot ∧
      request.chosen? = some bot ∧ Entries.get? (Slot.ofBlocks request.metadata bot.memory) name =
        some slot := by
  unfold slots at found
  cases chosen : request.chosen? with
  | none =>
    rw [chosen] at found
    cases found
  | some bot =>
    rw [chosen] at found
    unfold chosen? at chosen
    cases parsed : parseProgram request.source with
    | error error =>
      rw [parsed] at chosen
      cases chosen
    | ok program =>
      rw [parsed] at chosen
      dsimp only at chosen
      cases selected : program.selectBot request.settings request.bot with
      | error cause =>
        rw [selected] at chosen
        cases chosen
      | ok picked =>
        rw [selected] at chosen
        obtain rfl := Option.some.inj chosen
        exact ⟨program, picked, rfl, selected, rfl, found⟩

/-- A declared variable is an identifier, and its key is that of its scope and its owner. -/
theorem slot_identifier (found : Entries.get? request.slots name = some slot) :
    IsIdentifier name.toList ∧ slot.key = Slot.scopedKey request.metadata slot.scope name := by
  obtain ⟨program, bot, parsed, selected, -, found⟩ := slot_declared found
  exact ⟨identifier_of_slot parsed (Run.mem_of_selectBot selected) found, Slot.key_of_get? found⟩

/-- What a run asks, it asks up to the choice of its handler and then in the answer to its event. -/
theorem execute_takes {outcome : Except Escape RunResult × List Event}
    (path : request.execute.Path asked outcome) :
    asked = [] ∨ ∃ program start front, parseProgram request.source = .ok program ∧
      request.environment = .ok start ∧
      ((∃ stop ready,
          Takes (Run.prepare request program) (.initial start) front (.error stop) ready ∧
          asked = front.map Turn.exchange) ∨
        ∃ bot setup ready back ended after,
          Takes (Run.prepare request program) (.initial start) front (.ok (bot, setup)) ready ∧
          Takes (Run.answer request setup bot) ready back ended after ∧
            asked = front.map Turn.exchange ++ back.map Turn.exchange) := by
  obtain ⟨turns, unfolds, rfl⟩ := unfolds_of_execute path
  cases unfolds with
  | refused wrong | unconvertible parsed unbound => exact .inl rfl
  | @performed program start _ ended after parsed bound performed =>
    rw [Run.program_eq] at performed
    rcases Run.takes_bind.mp performed with
      ⟨⟨bot, setup⟩, front, ready, back, begun, answered, rfl⟩ | ⟨stop, begun, -⟩
    · rw [List.map_append]
      exact .inr ⟨program, start, front, parsed, bound,
        .inr ⟨bot, setup, ready, back, ended, after, begun, answered, rfl⟩⟩
    · exact .inr ⟨program, start, turns, parsed, bound, .inl ⟨stop, after, begun, rfl⟩⟩

/-- A run asks these questions until it has come to the choice of its handler, and by then its
variables are these. -/
def Hydrates (request : RunRequest) (asked : List Exchange) (env : Environment) : Prop :=
  ∃ program start turns bot setup ready,
    parseProgram request.source = .ok program ∧ request.environment = .ok start ∧
    Takes (Run.prepare request program) (.initial start) turns (.ok (bot, setup)) ready ∧
      turns.map Turn.exchange = asked ∧
      ready.env = env

/-- Until it has come to the choice of its handler a run writes nothing. -/
theorem Hydrates.reads_only {env : Environment} (hydrates : request.Hydrates asked env) :
    ∀ call ∈ memoryCalls asked, call.writes = false := by
  obtain ⟨program, start, turns, bot, setup, ready, -, -, taken, rfl, -⟩ := hydrates
  exact Run.prepare_reads_only taken

/-- Every declared variable is asked for and bound to the value of the data which are returned. -/
theorem Hydrates.bound {env : Environment} (hydrates : request.Hydrates asked env)
    (found : Entries.get? request.slots name = some slot) : ∃ front back completion kept,
      asked = front ++ ⟨.memory (.get slot.key), completion⟩ :: back ∧
        (∀ datum, completion = .returned datum → datum.convert = .ok kept) ∧
          env.get? name = some (MemoryAccess.orDefault slot kept) := by
  obtain ⟨program, start, turns, bot, setup, ready, parsed, -, taken, rfl, rfl⟩ := hydrates
  rcases Run.prepare_takes taken with ⟨_, _, same, prepared⟩ | ⟨stop, impossible, -⟩
  · obtain ⟨rfl, rfl⟩ := Prod.mk.inj (Except.ok.inj same)
    obtain ⟨selected, ⟨catalogue, now, rfl⟩, moment, asked, values, path, exchanged, rfl⟩ :=
      prepared
    obtain ⟨program', bot', parsed', selected', -, found⟩ := slot_declared found
    obtain rfl := Except.ok.inj (parsed.symm.trans parsed')
    obtain rfl := Except.ok.inj (selected.symm.trans selected')
    obtain ⟨front, back, completion, kept, rfl, converts, among⟩ :=
      MemoryAccess.hydrate_answers path (name, slot) (Entries.mem_of_get? found)
    refine ⟨⟨.observe, moment⟩ :: front, back, completion, kept, exchanged, converts, ?_⟩
    have plain := plain_of_parseProgram parsed bot (Run.mem_of_selectBot selected)
    exact Mirrors.get?_bindValues_of_slots
      (fun name slot found => plain.declared name (Slot.mem_memoryNames.mpr ⟨slot, found⟩))
      (Entries.distinct_ofList _) (Run.hydrate_names path) among
  · cases impossible

/-- A run writes nothing before it has read its declared variables. -/
theorem hydrates_of_writes {rest : List Exchange} {outcome : Except Escape RunResult × List Event}
    {call : MemoryCall} (path : request.execute.Path (asked ++ rest) outcome)
    (called : call ∈ memoryCalls asked) (writes : call.writes = true) :
    ∃ front env, request.Hydrates front env ∧ front <+: asked := by
  have apart {program : Program} {start : Environment} {turns : List (Turn Standing)}
      {given : Except Stop (Bot × Setup)} {ready : RunState}
      (taken : Takes (Run.prepare request program) (.initial start) turns given ready) :
      ¬ asked <+: turns.map Turn.exchange := by
    intro begins
    rw [Run.prepare_reads_only taken call ((begins.sublist.filterMap _).subset called)] at writes
    cases writes
  rcases execute_takes path with silent | ⟨program, start, front, parsed, bound,
    ⟨stop, ready, begun, exchanged⟩ | ⟨bot, setup, ready, back, ended, after, begun, -, exchanged⟩⟩
  · rw [(List.append_eq_nil_iff.mp silent).1] at called
    cases called
  · exact absurd ⟨rest, exchanged⟩ (apart begun)
  · have begins : asked <+: front.map Turn.exchange ++ back.map Turn.exchange := ⟨rest, exchanged⟩
    refine ⟨_, _, ⟨program, start, front, bot, setup, ready, parsed, bound, begun, rfl, rfl⟩, ?_⟩
    exact (List.prefix_or_prefix_of_prefix (List.prefix_append _ _) begins).resolve_right
      (apart begun)

/-- A statement stands in a handler of the bot that runs. -/
def Has (request : RunRequest) (stmt : Stmt) : Prop :=
  ∃ bot handler, request.chosen? = some bot ∧ handler ∈ bot.handlers ∧ stmt ∈ handler.statements

/-- A run that remembers nothing writes to the slots of the variables that its statements set, and
nowhere else. -/
theorem execute_writes {rest : List Exchange} {outcome : Except Escape RunResult × List Event}
    {call : MemoryCall} (path : request.execute.Path (asked ++ rest) outcome)
    (forgets : ∀ key item mode p, ¬ request.Has (.remember key item mode p))
    (called : call ∈ memoryCalls asked) (writes : call.writes = true) : ∃ name expr p slot value,
      request.Has (.set name expr p) ∧ Entries.get? request.slots name = some slot ∧
      call = .set slot.key value := by
  replace called : call ∈ memoryCalls (asked ++ rest) := by
    rw [Exchange.memoryCalls_append]
    exact List.mem_append_left _ called
  rcases execute_takes path with silent | ⟨program, start, front, parsed, bound,
    ⟨stop, ready, begun, exchanged⟩ |
    ⟨bot, setup, ready, back, ended, after, begun, answered, exchanged⟩⟩
  · rw [silent] at called
    cases called
  · rw [exchanged] at called
    rw [Run.prepare_reads_only begun call called] at writes
    cases writes
  · rw [exchanged, Exchange.memoryCalls_append] at called
    rcases List.mem_append.mp called with early | late
    · rw [Run.prepare_reads_only begun call early] at writes
      cases writes
    · rcases Run.prepare_takes begun with ⟨_, _, same, prepared⟩ | ⟨stop, impossible, -⟩
      · obtain ⟨rfl, rfl⟩ := Prod.mk.inj (Except.ok.inj same)
        have among := Run.mem_of_selectBot prepared.selected
        have chosen : request.chosen? = some bot := by
          simp [chosen?, parsed, prepared.selected, Except.toOption]
        rcases Run.answer_flows parsed among (prepared.wellKeyed bound) answered with ⟨rfl, -⟩ |
          ⟨handler, handles, flow⟩
        · cases late
        · have has (stmt : Stmt) (stands : stmt ∈ handler.statements) : request.Has stmt :=
            ⟨bot, handler, chosen, handles, stands⟩
          rw [← exchanges_of_sights] at late
          obtain ⟨name, expr, p, slot, value, stands, kept, rfl⟩ :=
            flow.writes (fun key item mode p stands => forgets key item mode p (has _ stands))
              call late writes
          obtain ⟨catalogue, now, rfl⟩ := prepared.fixed
          refine ⟨name, expr, p, slot, value, has _ stands, ?_, rfl⟩
          rw [slots, chosen]
          exact kept
      · cases impossible

/-- The statements of a run remember nothing, and the declared variables that they set are strangers
to a variable of another run. -/
structure SetsStrangers (request : RunRequest) (metadata : Metadata) (scope : Scope) : Prop where
  forgets : ∀ key item mode p, ¬ request.Has (.remember key item mode p)
  strangers : ∀ name expr p slot, request.Has (.set name expr p) →
      Entries.get? request.slots name = some slot →
    Slot.Strangers request.metadata metadata slot.scope scope

/-- A run calls its memory for a declared variable that is a stranger to a variable of another
run. -/
def CallsStranger (request : RunRequest) (metadata : Metadata) (scope : Scope)
    (exchange : Exchange) : Prop :=
  ∃ call name slot, exchange.memoryCall? = some call ∧ Entries.get? request.slots name = some slot ∧
    call.key = slot.key ∧
    Slot.Strangers request.metadata metadata slot.scope scope

/-- Slots of strangers have different keys. -/
theorem slot_key_ne {other : RunRequest} {name' : String} {slot' : Slot}
    (found : Entries.get? request.slots name = some slot)
    (found' : Entries.get? other.slots name' = some slot')
    (strangers : Slot.Strangers request.metadata other.metadata slot.scope slot'.scope) :
    slot.key ≠ slot'.key := by
  obtain ⟨identifier, key⟩ := slot_identifier found
  obtain ⟨identifier', key'⟩ := slot_identifier found'
  rw [key, key']
  exact strangers.key_ne identifier identifier'

end RunRequest

/-! ## Many runs that take turns -/

namespace Schedule

variable {ι : Type}

/-- Whatever is called, one of them calls it. -/
theorem exists_caller [DecidableEq ι] {turns : Schedule ι} {call : MemoryCall}
    (member : call ∈ memoryCalls turns.all) :
    ∃ one, call ∈ memoryCalls (turns.of one) := by
  obtain ⟨exchange, among, called⟩ := List.mem_filterMap.mp member
  obtain ⟨⟨one, _⟩, stands, rfl⟩ := List.mem_map.mp among
  refine ⟨one, List.mem_filterMap.mpr ⟨_,
    List.mem_map_of_mem (List.mem_filter.mpr ⟨stands, ?_⟩), called⟩⟩
  exact decide_eq_true rfl

theorem of_append [DecidableEq ι] (front back : Schedule ι) (one : ι) :
    of (front ++ back) one = of front one ++ of back one := by
  rw [of, List.filter_append, List.map_append]
  rfl

/-- What stands among the questions of one stands among all questions, behind those that it has
asked before. -/
theorem of_eq_append [DecidableEq ι] {turns : Schedule ι} {one : ι} {exchange : Exchange}
    {front back : List Exchange} (asked : turns.of one = front ++ exchange :: back) :
    ∃ early late, turns = early ++ (one, exchange) :: late ∧ early.of one = front := by
  obtain ⟨before, behind, chosen, own, other⟩ := List.map_eq_append_iff.mp asked
  obtain ⟨⟨asker, _⟩, rest, rfl, rfl, -⟩ := List.map_eq_cons_iff.mp other
  obtain ⟨early, late, rfl, first, second⟩ := List.filter_eq_append_iff.mp chosen
  obtain ⟨passed, later, rfl, others, same, -⟩ := List.filter_eq_cons_iff.mp second
  obtain rfl : asker = one := of_decide_eq_true same
  refine ⟨early ++ passed, later, (List.append_assoc _ _ _).symm, ?_⟩
  have unasked : passed.filter (·.1 = asker) = [] := List.filter_eq_nil_iff.mpr others
  rw [of, List.filter_append, first, unasked, List.append_nil, own]

/-- What changes the data under a key stays when calls under other keys are left out. -/
theorem changing_filter {key : String} {turns : Schedule ι} {keep : ι × Exchange → Bool}
    (others : ∀ turn ∈ turns, keep turn = false → ∀ call, turn.2.memoryCall? = some call →
      call.key ≠ key) :
    MemoryCall.changing key (memoryCalls (all (turns.filter keep))) =
      MemoryCall.changing key (memoryCalls turns.all) := by
  induction turns with
  | nil => rfl
  | cons turn rest ih =>
    obtain ⟨own, later⟩ := List.forall_mem_cons.mp others
    have split (turns : Schedule ι) : MemoryCall.changing key (memoryCalls (all (turn :: turns))) =
        MemoryCall.changing key (memoryCalls [turn.2]) ++ MemoryCall.changing key
          (memoryCalls turns.all) := by
      rw [← MemoryCall.changing_append, ← Exchange.memoryCalls_append]
      rfl
    cases kept : keep turn with
    | true => rw [List.filter_cons_of_pos kept, split, split, ih later]
    | false =>
      rw [List.filter_cons_of_neg (by simp [kept]), split, ih later]
      have unused : MemoryCall.changing key (memoryCalls [turn.2]) = [] := by
        refine MemoryCall.changing_eq_nil_of_unused fun call member => own kept call ?_
        obtain ⟨exchange, single, called⟩ := List.mem_filterMap.mp member
        obtain rfl := List.mem_singleton.mp single
        exact called
      rw [unused, List.nil_append]

end Schedule

namespace RunRequest

variable {ι : Type} [DecidableEq ι] {requests : ι → RunRequest} {store last : Store}
  {turns : Schedule ι} {one : ι}
  {name : String} {slot : Slot}

/-- What strangers do with their declared variables makes no difference to a declared variable of a
run. -/
structure Isolated (requests : ι → RunRequest) (store : Store) (turns : Schedule ι) (one : ι)
    (name : String) (slot : Slot) :
    Prop where
  /-- Every read of it is answered as if any of the calls for variables of strangers had never been
  made. -/
  read : ∀ (early late : Schedule ι) completion,
      turns = early ++ (one, ⟨.memory (.get slot.key), completion⟩) :: late →
    ∀ keep : ι × Exchange → Bool,
      (∀ turn ∈ early, keep turn = false →
        (requests turn.1).CallsStranger (requests one).metadata slot.scope turn.2) →
      completion =
        .returned ((store.after (memoryCalls (Schedule.all (early.filter keep)))).get slot.key)
  /-- When the run has read its variables, it is bound to what such a read has returned. -/
  bound : ∀ front env, (requests one).Hydrates front env → front <+: turns.of one →
    ∃ (early late : Schedule ι) (datum : Datum) (kept : Value),
      turns = early ++ (one, ⟨.memory (.get slot.key), .returned datum⟩) :: late ∧
        datum.convert = .ok kept ∧
        env.get? name = some (MemoryAccess.orDefault slot kept)
  /-- If all others only set variables that are strangers, that is what the memory held before any
  of the runs. -/
  untouched : ∀ front env, (requests one).Hydrates front env → front <+: turns.of one →
    (∀ other, other ≠ one → (requests other).SetsStrangers (requests one).metadata slot.scope) →
    ∃ kept, (store.get slot.key).convert = .ok kept ∧
      env.get? name = some (MemoryAccess.orDefault slot kept)

/-- A variable that a run has read is bound to what the store held when it was asked, and by then
the run had written nothing. -/
theorem Share.hydrated (share : Share requests store turns last) {front : List Exchange}
    {env : Environment} (hydrates : (requests one).Hydrates front env)
    (begins : front <+: turns.of one) (found : Entries.get? (requests one).slots name = some slot) :
    ∃ (early late : Schedule ι) (kept : Value),
      turns =
        early ++
          (one, ⟨.memory (.get slot.key),
          .returned ((store.after (memoryCalls early.all)).get slot.key)⟩) :: late ∧
        ((store.after (memoryCalls early.all)).get slot.key).convert = .ok kept ∧
        env.get? name = some (MemoryAccess.orDefault slot kept) ∧
        ∀ call ∈ memoryCalls (early.of one), call.writes = false := by
  obtain ⟨before, behind, completion, kept, rfl, converts, bound⟩ := hydrates.bound found
  obtain ⟨rest, whole⟩ := begins
  have asked : turns.of one = before ++ ⟨.memory (.get slot.key), completion⟩ ::
      (behind ++ rest) := by
    rw [← whole, List.append_assoc, List.cons_append]
  obtain ⟨early, late, cut, own⟩ := Schedule.of_eq_append asked
  obtain ⟨middle, served, rfl⟩ := share.read cut
  obtain rfl : middle = store.after (memoryCalls early.all) := served.last_eq
  refine ⟨early, late, kept, cut, converts _ rfl, bound,
    fun call member => hydrates.reads_only call ?_⟩
  rw [own] at member
  rw [Exchange.memoryCalls_append]
  exact List.mem_append_left _ member

/-- Owners do not collide. Keys of variables are equal only if the scopes, the owners and the names
are, whoever the owners are, as long as the names are identifiers, and those of declared variables
are. So let any number of runs share a store, with their calls in any order: what strangers do with
their declared variables makes no difference to those of a run. -/
theorem Share.isolates (share : Share requests store turns last) :
    (∀ (metadata metadata' : Metadata) (scope scope' : Scope) (name name' : String),
      IsIdentifier name.toList → IsIdentifier name'.toList →
        Slot.scopedKey metadata scope name = Slot.scopedKey metadata' scope' name' →
        scope = scope' ∧ Slot.owner metadata scope = Slot.owner metadata' scope' ∧ name = name') ∧
      ∀ one name slot, Entries.get? (requests one).slots name = some slot →
        (IsIdentifier name.toList ∧
            slot.key = Slot.scopedKey (requests one).metadata slot.scope name) ∧
          Isolated requests store turns one name slot := by
  refine ⟨fun _ _ _ _ _ _ => Slot.scopedKey_apart,
    fun one name slot found => ⟨slot_identifier found, ?_, ?_, ?_⟩⟩
  · intro early late completion cut keep strangers
    obtain ⟨middle, served, rfl⟩ := share.read cut
    obtain rfl : middle = store.after (memoryCalls early.all) := served.last_eq
    have same : MemoryCall.changing slot.key (memoryCalls (Schedule.all (early.filter keep))) =
        MemoryCall.changing slot.key (memoryCalls early.all) := by
      refine Schedule.changing_filter fun turn member dropped call called => ?_
      obtain ⟨call', name', slot', called', found', key, apart⟩ := strangers turn member dropped
      obtain rfl := Option.some.inj (called.symm.trans called')
      rw [key]
      exact slot_key_ne found' found apart
    rw [Store.get_after_congr same]
  · intro front env hydrates begins
    obtain ⟨early, late, kept, cut, converts, bound, -⟩ := share.hydrated hydrates begins found
    exact ⟨early, late, _, kept, cut, converts, bound⟩
  · intro front env hydrates begins others
    obtain ⟨early, late, kept, cut, converts, bound, reads⟩ := share.hydrated hydrates begins found
    refine ⟨kept, ?_, bound⟩
    have unchanged : MemoryCall.changing slot.key (memoryCalls early.all) =
        MemoryCall.changing slot.key [] := by
      refine List.filter_eq_nil_iff.mpr fun call member chosen => ?_
      obtain ⟨writes, same⟩ := Bool.and_eq_true_iff.mp chosen
      obtain ⟨writer, own⟩ := Schedule.exists_caller member
      by_cases self : writer = one
      · subst self
        rw [reads call own] at writes
        cases writes
      · obtain ⟨rest, result, path⟩ := share.runs writer
        rw [cut, Schedule.of_append, List.append_assoc] at path
        obtain ⟨forgets, strangers⟩ := others writer self
        obtain ⟨name', expr, p, slot', value, has, found', rfl⟩ :=
          execute_writes path forgets own writes
        exact slot_key_ne found' found (strangers name' expr p slot' has found')
          (of_decide_eq_true same)
    rw [Store.get_after_congr unchanged] at converts
    exact converts

/-! ## Tenants of one memory -/

/-- Two runs that set variables of the same names. The bot and the user of one might be taken for
parts of the other one's keys. -/
def tenants : Fin 2 → RunRequest
  | 0 =>
    { patient
      "bot a memory user var x: string end memory session var y: int end on input set x to 1 set y to 7 end end" with
      metadata := { Metadata.anonymous "" with botId := "a", userId := some "ann" } }
  | 1 =>
    { patient
      "bot b memory user var x: string end memory session var y: int end on input set y to 8 say x end end" with
      metadata := { Metadata.anonymous "" with botId := "a:y", userId := some "ann:x" } }

/-- A store that holds a variable of the second one. -/
def furnished : Store :=
  ⟨[("user:ann:x:x", .text "hers")]⟩

/-- The first one sets a variable before the second one reads its own, and another one while it
does. -/
def tenancy : Option (Schedule (Fin 2) × Store) :=
  Dialogue.planned ⟨fun _ _ => .hung, fun _ _ => .hung⟩
    (List.replicate 11 0 ++ (List.replicate 6 [1, 0]).flatten ++ List.replicate 8 1)
    (fun one => ([], (tenants one).execute)) furnished

/-- No handler of the bot that runs remembers anything. -/
def isForgetful (request : RunRequest) : Bool :=
  request.chosen?.all fun bot => bot.handlers.all fun handler => handler.statements.all fun stmt =>
    match stmt with
    | .remember .. => false
    | _ => true

theorem forgets_of_isForgetful {request : RunRequest} (forgetful : request.isForgetful = true)
    (key item : Expr) (mode : RememberMode) (p : Position) :
    ¬ request.Has (.remember key item mode p) := by
  rintro ⟨bot, handler, chosen, handles, stands⟩
  rw [isForgetful, chosen] at forgetful
  exact Bool.false_ne_true (List.all_eq_true.mp
    (List.all_eq_true.mp forgetful handler handles) _ stands)

/-- All variables of the two tenants are strangers. -/
theorem tenants_strangers (scope scope' : Scope) :
    Slot.Strangers (tenants 0).metadata (tenants 1).metadata scope scope' := by
  cases scope <;> cases scope'
  · exact .bots (by decide)
  · exact .scopes (by decide)
  · exact .scopes (by decide)
  · exact .users (by decide) (by decide) (by decide)

theorem tenants_isolated : ∃ turns last front env, Share tenants furnished turns last ∧
    (memoryCalls turns.all).map (fun call => (call.method, call.key)) =
      [("get", "user:ann:x"), ("get", "session:a:y"), ("set", "user:ann:x"),
        ("get", "user:ann:x:x"), ("set", "session:a:y"), ("get", "session:a:y:y"),
          ("set", "session:a:y:y")] ∧
    (tenants 1).Hydrates front env ∧ front <+: turns.of 1 ∧
    ((tenants 1).slots.map fun slot =>
      (slot.1, (furnished.get slot.2.key).convert.toOption.map fun kept =>
      (MemoryAccess.orDefault slot.2 kept).shown)) = [("x", some "hers"), ("y", some "0")] ∧
    ∀ name slot, Entries.get? (tenants 1).slots name = some slot →
      Isolated tenants furnished turns 1 name slot ∧
      ∃ kept, (furnished.get slot.key).convert = .ok kept ∧
        env.get? name = some (MemoryAccess.orDefault slot kept) := by
  have checked : (tenancy.any fun (turns, _) =>
      decide ((memoryCalls turns.all).map (fun call => (call.method, call.key)) =
        [("get", "user:ann:x"), ("get", "session:a:y"), ("set", "user:ann:x"),
          ("get", "user:ann:x:x"), ("set", "session:a:y"), ("get", "session:a:y:y"),
            ("set", "session:a:y:y")]) &&
      (memoryCalls (turns.of 1)).any MemoryCall.writes) = true := by decide +kernel
  have forgetful : (tenants 0).isForgetful = true := by decide +kernel
  cases taken : tenancy with
  | none =>
    rw [taken] at checked
    cases checked
  | some planned =>
    obtain ⟨turns, last⟩ := planned
    rw [taken] at checked
    simp only [Option.any_some, Bool.and_eq_true, decide_eq_true_eq] at checked
    obtain ⟨calls, written⟩ := checked
    obtain ⟨runs, served⟩ := Dialogue.planned_sound taken
    have share : Share tenants furnished turns last := ⟨runs, served⟩
    obtain ⟨call, called, writes⟩ := List.any_eq_true.mp written
    obtain ⟨rest, result, path⟩ := runs 1
    obtain ⟨front, env, hydrates, begins⟩ := hydrates_of_writes path called writes
    refine ⟨turns, last, front, env, share, calls, hydrates, begins, by decide +kernel,
      fun name slot found => ?_⟩
    have isolated := (share.isolates.2 1 name slot found).2
    refine ⟨isolated, isolated.untouched front env hydrates begins fun other ne => ?_⟩
    obtain rfl : other = 0 := by omega
    exact ⟨forgets_of_isForgetful forgetful,
      fun _ _ _ slot' _ _ => tenants_strangers slot'.scope slot.scope⟩

end RunRequest

end BotScript
