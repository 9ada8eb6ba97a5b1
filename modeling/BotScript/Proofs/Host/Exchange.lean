import BotScript.Host.Dialogue

/-! What a computation asks its host, question by question. A path is one way through a computation:
it fixes an answer to every question, whatever host may give it. What holds of all paths holds of
every run with every host. -/

namespace BotScript

/-- A question and the answer to it. -/
structure Exchange where
  query : Query
  answer : query.Answer

namespace Exchange

/-- The record that the host is told about. -/
def step? (exchange : Exchange) : Option Step :=
  match exchange.query with
  | .stepEnded step => some step
  | _ => none

/-- The tool that is run, with its arguments. Waiting for work that a tool handed back is no further
run. -/
def toolRun? (exchange : Exchange) : Option (Tool × List (String × Value)) :=
  match exchange.query with
  | .tool tool args => some (tool, args)
  | _ => none

/-- The call of the memory. -/
def memoryCall? (exchange : Exchange) : Option MemoryCall :=
  match exchange.query with
  | .memory call => some call
  | _ => none

/-- The records that the host is told about, in the order in which it hears of them. -/
def told (asked : List Exchange) : List Step :=
  asked.filterMap step?

/-- The runs of tools, in order. -/
def toolRuns (asked : List Exchange) : List (Tool × List (String × Value)) :=
  asked.filterMap toolRun?

/-- The calls of the memory, in order. -/
def memoryCalls (asked : List Exchange) : List MemoryCall :=
  asked.filterMap memoryCall?

@[simp] theorem told_nil : told [] = [] := rfl

@[simp] theorem toolRuns_nil : toolRuns [] = [] := rfl

@[simp] theorem memoryCalls_nil : memoryCalls [] = [] := rfl

@[simp] theorem told_append (front back : List Exchange) :
    told (front ++ back) = told front ++ told back :=
  List.filterMap_append

@[simp] theorem toolRuns_append (front back : List Exchange) :
    toolRuns (front ++ back) = toolRuns front ++ toolRuns back :=
  List.filterMap_append

@[simp] theorem memoryCalls_append (front back : List Exchange) :
    memoryCalls (front ++ back) = memoryCalls front ++ memoryCalls back :=
  List.filterMap_append

end Exchange

namespace Dialogue

variable {α β σ : Type}

/-- A computation may ask these questions, get these answers and end with this result. -/
inductive Path : Dialogue α → List Exchange → α → Prop
  | done (a : α) : Path (done a) [] a
  | ask {query : Query} {next : query.Answer → Dialogue α} {answer : query.Answer}
      {asked : List Exchange} {a : α} (later : Path (next answer) asked a) :
      Path (ask query next) (⟨query, answer⟩ :: asked) a

@[simp] theorem path_done_iff {a b : α} {asked : List Exchange} :
    Path (done a) asked b ↔ asked = [] ∧ b = a := by
  constructor
  · intro path
    cases path
    exact ⟨rfl, rfl⟩
  · rintro ⟨rfl, rfl⟩
    exact .done b

@[simp] theorem path_pure_iff {a b : α} {asked : List Exchange} :
    Path (pure a) asked b ↔ asked = [] ∧ b = a :=
  path_done_iff

theorem path_ask_iff {query : Query} {next : query.Answer → Dialogue α} {asked : List Exchange}
    {a : α} :
    Path (ask query next) asked a ↔
      ∃ answer later, Path (next answer) later a ∧ asked = ⟨query, answer⟩ :: later := by
  constructor
  · intro path
    cases path with
    | ask later => exact ⟨_, _, later, rfl⟩
  · rintro ⟨answer, later, path, rfl⟩
    exact .ask path

@[simp] theorem path_query_iff {q : Query} {asked : List Exchange} {answer : q.Answer} :
    Path (query q) asked answer ↔ asked = [⟨q, answer⟩] := by
  simp only [query, path_ask_iff, path_done_iff]
  constructor
  · rintro ⟨_, _, ⟨rfl, rfl⟩, rfl⟩
    rfl
  · rintro rfl
    exact ⟨answer, [], ⟨rfl, rfl⟩, rfl⟩

/-- A path through one computation after another consists of a path through each. -/
theorem path_bind_iff {d : Dialogue α} {f : α → Dialogue β} {asked : List Exchange} {b : β} :
    Path (d >>= f) asked b ↔
      ∃ a front back, Path d front a ∧ Path (f a) back b ∧ asked = front ++ back := by
  induction d generalizing asked with
  | done a =>
    simp only [done_bind, path_done_iff]
    constructor
    · intro path
      exact ⟨a, [], asked, ⟨rfl, rfl⟩, path, rfl⟩
    · rintro ⟨_, _, back, ⟨rfl, rfl⟩, path, rfl⟩
      exact path
  | ask query next ih =>
    simp only [ask_bind, path_ask_iff, ih]
    constructor
    · rintro ⟨answer, _, ⟨a, front, back, first, second, rfl⟩, rfl⟩
      exact ⟨a, ⟨query, answer⟩ :: front, back, ⟨answer, front, first, rfl⟩, second, rfl⟩
    · rintro ⟨a, _, back, ⟨answer, front, first, rfl⟩, second, rfl⟩
      exact ⟨answer, front ++ back, ⟨a, front, back, first, second, rfl⟩, rfl⟩

/-- What is asked and answered when a computation runs with a host. -/
def exchanges (host : Host σ) : Dialogue α → σ → List Exchange
  | done _, _ => []
  | ask query next, world =>
    ⟨query, (host.answer query world).1⟩ ::
      exchanges host (next (host.answer query world).1) (host.answer query world).2

/-- A run with a host takes a path. -/
theorem run_path (host : Host σ) (d : Dialogue α) (world : σ) :
    Path d (d.exchanges host world) (d.run host world).1 := by
  induction d generalizing world with
  | done a => exact .done a
  | ask query next ih => exact .ask (ih _ _)

end Dialogue

end BotScript
