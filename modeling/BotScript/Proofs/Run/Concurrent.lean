import BotScript.Proofs.Alike.Execution
import BotScript.Proofs.Memory.Shared
import BotScript.Proofs.Run.Course

/-! Runs that share a memory. The memory is a store that serves the calls of both, each call whole
and in any order. Runs that keep off each other's keys do not notice each other. -/

namespace BotScript

/-- Tools without a state: what comes of a call depends on the tool and the arguments alone. -/
structure Toolbox where
  call : Tool → List (String × Value) → Completion
  /-- What comes of the work that a call has handed back. -/
  await : Tool → List (String × Value) → Completion

namespace Dialogue

variable {α β : Type}

/-- A computation proceeds, undisturbed, from question to question: its tools are those of a toolbox
and nobody cancels it. What its clock shows, what its memory answers and what its listener says is
left open. The arguments are those of the last call of a tool. -/
inductive Proceeds (tools : Toolbox) {α : Type} :
    List (String × Value) → Dialogue α → List Exchange → α → Prop
  | done {args : List (String × Value)} (a : α) : Proceeds tools args (.done a) [] a
  | observe {args : List (String × Value)} {next : Moment → Dialogue α} {moment : Moment}
      {asked : List Exchange} {a : α} (going : moment.cancelled = false)
      (later : Proceeds tools args (next moment) asked a) :
      Proceeds tools args (.ask .observe next) (⟨.observe, moment⟩ :: asked) a
  | tool {args given : List (String × Value)} {tool : Tool} {next : Completion → Dialogue α}
      {asked : List Exchange} {a : α}
      (later : Proceeds tools given (next (tools.call tool given)) asked a) :
      Proceeds tools args (.ask (.tool tool given) next)
        (⟨.tool tool given, tools.call tool given⟩ :: asked) a
  | awaitTool {args : List (String × Value)} {tool : Tool} {next : Completion → Dialogue α}
      {asked : List Exchange} {a : α}
      (later : Proceeds tools args (next (tools.await tool args)) asked a) :
      Proceeds tools args (.ask (.awaitTool tool) next)
        (⟨.awaitTool tool, tools.await tool args⟩ :: asked) a
  | memory {args : List (String × Value)} {call : MemoryCall} {next : Completion → Dialogue α}
      {completion : Completion} {asked : List Exchange} {a : α}
      (later : Proceeds tools args (next completion) asked a) :
      Proceeds tools args (.ask (.memory call) next) (⟨.memory call, completion⟩ :: asked) a
  | stepEnded {args : List (String × Value)} {record : Step}
      {next : Bool → Dialogue α} {told : Bool} {asked : List Exchange} {a : α}
      (later : Proceeds tools args (next told) asked a) :
      Proceeds tools args (.ask (.stepEnded record) next) (⟨.stepEnded record, told⟩ :: asked) a

end Dialogue

/-- Two runs are compared in everything, at moments that do not cancel them, whatever the time
is. -/
def Slack.leisure : Slack :=
  ⟨id, fun moment other => moment.cancelled = false ∧ other.cancelled = false⟩

theorem Slack.leisure_sharp : Slack.leisure.Sharp :=
  Function.injective_id

namespace Dialogue

open Exchange

variable {α β : Type} {tools : Toolbox} {args : List (String × Value)} {store last last' : Store}
  {asked asked' : List Exchange} {a : α} {b : β}

/-- With the same tools and the same store, conversations that go alike end alike, and the store
behind them is the same. -/
theorem Alike.settled {ends : α → β → Prop} {d : Dialogue α} {d' : Dialogue β}
    (alike : Alike .leisure ends d d') (path : d.Proceeds tools args asked a)
    (path' : d'.Proceeds tools args asked' b) (served : Served store asked last)
    (served' : Served store asked' last') : ends a b ∧ last = last' := by
  induction alike generalizing args store asked asked' with
  | done same =>
    cases path
    cases path'
    cases served
    cases served'
    exact ⟨same, rfl⟩
  | observe _ ih =>
    cases path with
    | observe going later =>
      cases path' with
      | observe going' later' =>
        exact ih _ _ ⟨going, going'⟩ later later' ((Served.other_iff rfl).mp served)
          ((Served.other_iff rfl).mp served')
  | tool _ ih =>
    cases path with
    | tool later =>
      cases path' with
      | tool later' =>
        exact ih _ later later' ((Served.other_iff rfl).mp served)
          ((Served.other_iff rfl).mp served')
  | awaitTool _ ih =>
    cases path with
    | awaitTool later =>
      cases path' with
      | awaitTool later' =>
        exact ih _ later later' ((Served.other_iff rfl).mp served)
          ((Served.other_iff rfl).mp served')
  | memory _ ih =>
    cases path with
    | memory later =>
      cases path' with
      | memory later' =>
        obtain ⟨rfl, behind⟩ := Served.call_iff.mp served
        obtain ⟨rfl, behind'⟩ := Served.call_iff.mp served'
        exact ih _ later later' behind behind'
  | stepEnded _ _ ih =>
    cases path with
    | stepEnded later =>
      cases path' with
      | stepEnded later' =>
        exact ih _ _ later later' ((Served.other_iff rfl).mp served)
          ((Served.other_iff rfl).mp served')

end Dialogue

theorem RunResult.EndAlike.eq {slack : Slack} {request : RunRequest}
    {result other : Except Escape RunResult} (sharp : slack.Sharp)
    (alike : RunResult.EndAlike slack request request result other) : result = other := by
  cases alike with
  | error => rfl
  | ok alike named named' => rw [alike.eq sharp, named', ← named]

namespace RunRequest

open Exchange

/-- The run has no deadline. -/
def Untimed (request : RunRequest) : Prop :=
  ∀ now, Deadline.start? request.settings.executionTimeout now = none

/-- Undisturbed, a run asks these questions and comes to this result; what its memory answers is
left open. -/
def Proceeds (request : RunRequest) (tools : Toolbox) (asked : List Exchange)
    (result : Except Escape RunResult) : Prop :=
  ∃ journal, request.execute.Proceeds tools [] asked (result, journal)

/-- A run comes to a result, undisturbed and with a store to itself, and leaves this store. -/
def Alone (request : RunRequest) (tools : Toolbox) (store : Store)
    (result : Except Escape RunResult) (last : Store) : Prop :=
  ∃ asked, request.Proceeds tools asked result ∧ Served store asked last

/-- A run alone comes to this result, whatever its clock shows, and there is such a run. -/
def ComesTo (request : RunRequest) (tools : Toolbox) (store : Store)
    (result : Except Escape RunResult) : Prop :=
  (∃ last, request.Alone tools store result last) ∧
    ∀ other last, request.Alone tools store other last → other = result

/-- Two runs share a store and take turns. -/
structure Together (first second : RunRequest) (tools tools' : Toolbox) (store : Store)
    (turns : Turns) (result result' : Except Escape RunResult) (last : Store) : Prop where
  firsts : first.Proceeds tools turns.firsts result
  seconds : second.Proceeds tools' turns.seconds result'
  served : Served store turns.all last

/-- A run has the store to itself, and after it another run. -/
def OneByOne (first second : RunRequest) (tools tools' : Toolbox) (store : Store)
    (result result' : Except Escape RunResult) (last : Store) : Prop :=
  ∃ middle, first.Alone tools store result middle ∧ second.Alone tools' middle result' last

/-- One after the other the two runs come to these results, whatever their clocks show, and leave a
store with the same data; and there are such runs. -/
def Follows (first second : RunRequest) (tools tools' : Toolbox) (store : Store)
    (result result' : Except Escape RunResult) (last : Store) : Prop :=
  (∃ behind, OneByOne first second tools tools' store result result' behind) ∧
    ∀ one other behind, OneByOne first second tools tools' store one other behind →
      one = result ∧ other = result' ∧ last.Same behind

variable {request first second : RunRequest} {tools tools' : Toolbox} {store last last' : Store}
  {turns : Turns}
  {result result' : Except Escape RunResult}

/-- Alone, a run comes to one result and leaves one store. -/
theorem Alone.settled (untimed : request.Untimed) (one : request.Alone tools store result last)
    (other : request.Alone tools store result' last') : result = result' ∧ last = last' := by
  obtain ⟨_, ⟨_, proceeds⟩, served⟩ := one
  obtain ⟨_, ⟨_, proceeds'⟩, served'⟩ := other
  have alike : RunRequest.Alike .leisure request request :=
    ⟨.refl _, rfl, Slack.steady_of_unlimited untimed fun _ _ moments =>
      moments.1.trans moments.2.symm⟩
  obtain ⟨results, stores⟩ := (execute_alike alike).settled proceeds proceeds' served served'
  exact ⟨results.eq Slack.leisure_sharp, stores⟩

theorem Alone.comesTo (untimed : request.Untimed) (alone : request.Alone tools store result last) :
    request.ComesTo tools store result :=
  ⟨⟨last, alone⟩, fun _ _ other => (other.settled untimed alone).1⟩

namespace Together

/-- The same with the sides exchanged. -/
theorem swap (together : Together first second tools tools' store turns result result' last) :
    Together second first tools' tools store turns.swap result' result last := by
  obtain ⟨firsts, seconds, served⟩ := together
  refine ⟨?_, ?_, ?_⟩
  · rw [Turns.firsts_swap]
    exact seconds
  · rw [Turns.seconds_swap]
    exact firsts
  · rw [Turns.all_swap]
    exact served

theorem first_alone (together : Together first second tools tools' store turns result result' last)
    (apart : turns.Apart) : ∃ behind, first.Alone tools store result behind := by
  obtain ⟨behind, alone⟩ := together.served.firsts_alone apart.seconds fun _ _ => rfl
  exact ⟨behind, _, together.firsts, alone⟩

/-- Runs that are apart come to the same when the second one waits for the first one. -/
theorem follows (together : Together first second tools tools' store turns result result' last)
    (apart : turns.Apart) (untimed : first.Untimed) (untimed' : second.Untimed) :
    Follows first second tools tools' store result result' last := by
  obtain ⟨middle, earlier⟩ := together.served.firsts_alone apart.seconds fun _ _ => rfl
  obtain ⟨behind, later⟩ :=
    together.served.seconds_alone apart.firsts (earlier.agreesOn apart.firsts)
  refine ⟨⟨behind, middle, ⟨_, together.firsts, earlier⟩, _, together.seconds, later⟩, ?_⟩
  rintro one other behind' ⟨middle', before, after⟩
  obtain ⟨rfl, rfl⟩ := before.settled untimed ⟨_, together.firsts, earlier⟩
  obtain ⟨rfl, rfl⟩ := after.settled untimed' ⟨_, together.seconds, later⟩
  exact ⟨rfl, rfl, together.served.same_as_one_by_one apart earlier later⟩

/-- Runs that share a memory and keep off each other's keys do not notice each other, in whatever
way they take turns: each comes to the result to which it comes alone, and the memory behind them
holds what it holds when the one waits for the other. -/
theorem unnoticed (together : Together first second tools tools' store turns result result' last)
    (apart : turns.Apart) (untimed : first.Untimed) (untimed' : second.Untimed) :
    (first.ComesTo tools store result ∧ second.ComesTo tools' store result') ∧
      Follows first second tools tools' store result result' last ∧
      Follows second first tools' tools store result' result last := by
  obtain ⟨_, alone⟩ := together.first_alone apart
  obtain ⟨_, alone'⟩ := together.swap.first_alone apart.swap
  exact ⟨⟨alone.comesTo untimed, alone'.comesTo untimed'⟩, together.follows apart untimed untimed',
    together.swap.follows apart.swap untimed' untimed⟩

end Together

end RunRequest

/-! ## Turns that follow a plan -/

namespace Dialogue

open Exchange

variable {α β : Type}

/-- The next question of a computation with a toolbox and a store, on a clock that stands still. -/
def turn? (tools : Toolbox) (store : Store) :
    List (String × Value) → Dialogue α →
    Option (Exchange × List (String × Value) × Dialogue α × Store)
  | _, .done _ => none
  | args, .ask .observe next => some (⟨.observe, ⟨.zero, false⟩⟩, args, next ⟨.zero, false⟩, store)
  | _, .ask (.tool tool args) next =>
    some (⟨.tool tool args, tools.call tool args⟩, args, next (tools.call tool args), store)
  | args, .ask (.awaitTool tool) next =>
    some (⟨.awaitTool tool, tools.await tool args⟩, args, next (tools.await tool args), store)
  | args, .ask (.memory call) next =>
    some (⟨.memory call, .returned (store.serve call).1⟩, args,
      next (.returned (store.serve call).1),
      (store.serve call).2)
  | args, .ask (.stepEnded record) next => some (⟨.stepEnded record, true⟩, args, next true, store)

/-- Two computations take turns as a plan says, which has them both come to their ends. -/
def inTurns (tools tools' : Toolbox) :
    List Bool → List (String × Value) → Dialogue α → List (String × Value) →
    Dialogue β → Store → Option (Turns × (α × β) × Store)
  | [], _, .done a, _, .done b, store => some ([], (a, b), store)
  | true :: plan, args, d, args', d', store => do
    let (exchange, args, d, store) ← d.turn? tools store args
    let (turns, ends, last) ← inTurns tools tools' plan args d args' d' store
    return (.inl exchange :: turns, ends, last)
  | false :: plan, args, d, args', d', store => do
    let (exchange, args', d', store) ← d'.turn? tools' store args'
    let (turns, ends, last) ← inTurns tools tools' plan args d args' d' store
    return (.inr exchange :: turns, ends, last)
  | [], _, _, _, _, _ => none

section

variable {tools tools' : Toolbox} {d d₁ : Dialogue α} {d' : Dialogue β}
  {args args' args₁ : List (String × Value)}
  {store store₁ last : Store} {exchange : Exchange} {asked : List Exchange} {a : α} {b : β}

theorem turn?_proceeds (taken : d.turn? tools store args = some (exchange, args₁, d₁, store₁))
    (later : d₁.Proceeds tools args₁ asked a) : d.Proceeds tools args (exchange :: asked) a := by
  cases d with
  | done => cases taken
  | ask query next =>
    cases query with
    | observe =>
      cases taken
      exact .observe rfl later
    | tool =>
      cases taken
      exact .tool later
    | awaitTool =>
      cases taken
      exact .awaitTool later
    | memory =>
      cases taken
      exact .memory later
    | stepEnded =>
      cases taken
      exact .stepEnded later

theorem turn?_served (taken : d.turn? tools store args = some (exchange, args₁, d₁, store₁))
    (later : Served store₁ asked last) : Served store (exchange :: asked) last := by
  cases d with
  | done => cases taken
  | ask query next =>
    cases query with
    | memory =>
      cases taken
      exact .call later
    | observe | tool | awaitTool | stepEnded =>
      cases taken
      exact .other rfl later

/-- Computations that take turns as planned proceed undisturbed, and the store serves both. -/
theorem inTurns_sound {plan : List Bool} {turns : Turns}
    (taken : inTurns tools tools' plan args d args' d' store = some (turns, (a, b), last)) :
    d.Proceeds tools args turns.firsts a ∧ d'.Proceeds tools' args' turns.seconds b ∧
    Served store turns.all last := by
  induction plan generalizing d d' args args' store turns with
  | nil =>
    cases d with
    | ask => cases taken
    | done =>
      cases d' with
      | ask => cases taken
      | done =>
        cases taken
        exact ⟨.done a, .done b, .done _⟩
  | cons side plan ih =>
    cases side with
    | true =>
      obtain ⟨⟨exchange, args₁, d₁, store₁⟩, turn, rest⟩ := Option.bind_eq_some_iff.mp taken
      obtain ⟨⟨later, ⟨_, _⟩, _⟩, more, same⟩ := Option.bind_eq_some_iff.mp rest
      cases same
      obtain ⟨firsts, seconds, served⟩ := ih more
      exact ⟨turn?_proceeds turn firsts, seconds, turn?_served turn served⟩
    | false =>
      obtain ⟨⟨exchange, args₁, d₁, store₁⟩, turn, rest⟩ := Option.bind_eq_some_iff.mp taken
      obtain ⟨⟨later, ⟨_, _⟩, _⟩, more, same⟩ := Option.bind_eq_some_iff.mp rest
      cases same
      obtain ⟨firsts, seconds, served⟩ := ih more
      exact ⟨firsts, turn?_proceeds turn seconds, turn?_served turn served⟩

end

end Dialogue

namespace RunRequest

/-- The request to run a program text with a memory and without a deadline. -/
def patient (source : String) : RunRequest :=
  { alone source with
    connected := true
    settings := { Settings.defaults with executionTimeout := none } }

/-- A run that writes one key and reads another. -/
def keeper : RunRequest :=
  patient "bot b on input remember \"a\" as 1 recall \"c\" as x remember \"a\" append x end end"

/-- A run that reads the same key and writes a third one. -/
def gatherer : RunRequest :=
  patient "bot b on input recall \"c\" as y remember \"b\" append y recall \"b\" as z say z end end"

/-- The two runs, question by question in turns, with a store that holds the key that both read. -/
def alternating :
    Option (Turns ×
      ((Except Escape RunResult × List Event) × Except Escape RunResult × List Event) × Store) :=
  Dialogue.inTurns ⟨fun _ _ => .hung, fun _ _ => .hung⟩ ⟨fun _ _ => .hung, fun _ _ => .hung⟩
    ((List.replicate 16 [true, false]).flatten ++ [false, false]) [] keeper.execute
    [] gatherer.execute
    ⟨[("c", .text "shared")]⟩

theorem alternating_unnoticed : ∃ turns tools store result result' last,
    Together keeper gatherer tools tools store turns result result' last ∧ turns.Apart ∧
    (Exchange.memoryCalls turns.all).map (fun call => (call.method, call.key)) =
      [("set", "a"), ("get", "c"), ("get", "c"), ("append", "b"), ("append", "a"), ("get", "b")] ∧
    (result.toOption.map RunResult.success, result'.toOption.map RunResult.output) =
      (some true, some "[\"shared\"]") ∧
    (keeper.ComesTo tools store result ∧ gatherer.ComesTo tools store result') ∧
      Follows keeper gatherer tools tools store result result' last ∧
      Follows gatherer keeper tools tools store result' result last := by
  have checked : (alternating.any fun (turns, ends, _) =>
      decide turns.Apart &&
      decide ((Exchange.memoryCalls turns.all).map (fun call => (call.method, call.key)) =
        [("set", "a"), ("get", "c"), ("get", "c"), ("append", "b"), ("append", "a"),
          ("get", "b")]) &&
      decide ((ends.1.1.toOption.map RunResult.success, ends.2.1.toOption.map RunResult.output) =
        (some true, some "[\"shared\"]"))) = true := by decide +kernel
  cases taken : alternating with
  | none =>
    rw [taken] at checked
    cases checked
  | some planned =>
    obtain ⟨turns, ⟨⟨result, _⟩, result', _⟩, last⟩ := planned
    rw [taken] at checked
    simp only [Option.any_some, Bool.and_eq_true, decide_eq_true_eq] at checked
    obtain ⟨⟨apart, calls⟩, results⟩ := checked
    obtain ⟨firsts, seconds, served⟩ := Dialogue.inTurns_sound taken
    have together : Together keeper gatherer _ _ _ turns result result' last :=
      ⟨⟨_, firsts⟩, ⟨_, seconds⟩, served⟩
    exact ⟨turns, _, _, result, result', last, together, apart, calls, results,
      together.unnoticed apart (fun _ => rfl) fun _ => rfl⟩

end RunRequest

end BotScript
