import BotScript.Host.Narrative
import BotScript.Proofs.Host.Exchange

/-! Paths through computations that show how things stand. A turn is a question with its answer and
with what was shown when it was asked; forgetting what was shown leaves a path of the dialogue that
the host takes part in. -/

namespace BotScript

/-- A question, the answer to it, and how things stood when it was asked. -/
structure Turn (σ : Type) where
  standing : σ
  exchange : Exchange

/-- A turn of a computation that is part of a larger one. -/
def Turn.within {σ : Type} (enclose : σ → σ) (turn : Turn σ) : Turn σ :=
  { turn with standing := enclose turn.standing }

namespace Narrative

variable {σ τ α β : Type}

/-- A computation may take these turns and end with this result. -/
inductive Path : Narrative σ α → List (Turn σ) → α → Prop
  | done (a : α) : Path (done a) [] a
  | ask {standing : σ} {query : Query} {next : query.Answer → Narrative σ α} {answer : query.Answer}
      {turns : List (Turn σ)} {a : α} (later : Path (next answer) turns a) :
      Path (ask standing query next) (⟨standing, ⟨query, answer⟩⟩ :: turns) a

@[simp] theorem path_done_iff {a b : α} {turns : List (Turn σ)} :
    Path (done a) turns b ↔ turns = [] ∧ b = a := by
  constructor
  · intro path
    cases path
    exact ⟨rfl, rfl⟩
  · rintro ⟨rfl, rfl⟩
    exact .done b

theorem path_ask_iff {standing : σ} {query : Query} {next : query.Answer → Narrative σ α}
    {turns : List (Turn σ)} {a : α} :
    Path (ask standing query next) turns a ↔
      ∃ answer later, Path (next answer) later a ∧
        turns = ⟨standing, ⟨query, answer⟩⟩ :: later := by
  constructor
  · intro path
    cases path with
    | ask later => exact ⟨_, _, later, rfl⟩
  · rintro ⟨answer, later, path, rfl⟩
    exact .ask path

/-- A path through one computation after another consists of a path through each. -/
theorem path_bind_iff {narrative : Narrative σ α} {f : α → Narrative σ β} {turns : List (Turn σ)}
    {b : β} :
    Path (narrative >>= f) turns b ↔
      ∃ a front back, Path narrative front a ∧ Path (f a) back b ∧ turns = front ++ back := by
  induction narrative generalizing turns with
  | done a =>
    rw [done_bind]
    constructor
    · intro path
      exact ⟨a, [], turns, .done a, path, rfl⟩
    · rintro ⟨_, _, back, first, path, rfl⟩
      obtain ⟨rfl, rfl⟩ := path_done_iff.mp first
      exact path
  | ask standing query next ih =>
    rw [ask_bind]
    constructor
    · intro path
      obtain ⟨answer, later, rest, rfl⟩ := path_ask_iff.mp path
      obtain ⟨a, front, back, first, second, rfl⟩ := (ih answer).mp rest
      exact ⟨a, ⟨standing, ⟨query, answer⟩⟩ :: front, back, .ask first, second, rfl⟩
    · rintro ⟨a, front, back, first, second, rfl⟩
      obtain ⟨answer, later, rest, rfl⟩ := path_ask_iff.mp first
      exact .ask ((ih answer).mpr ⟨a, later, back, rest, second, rfl⟩)

/-- During a dialogue everything stands as it did at its start. -/
theorem path_of_iff {standing : σ} {dialogue : Dialogue α} {turns : List (Turn σ)} {a : α} :
    Path (of standing dialogue) turns a ↔
      ∃ asked, dialogue.Path asked a ∧ turns = asked.map (Turn.mk standing) := by
  induction dialogue generalizing turns with
  | done b =>
    rw [of, path_done_iff]
    constructor
    · rintro ⟨rfl, rfl⟩
      exact ⟨[], .done a, rfl⟩
    · rintro ⟨asked, path, rfl⟩
      obtain ⟨rfl, rfl⟩ := Dialogue.path_done_iff.mp path
      exact ⟨rfl, rfl⟩
  | ask query next ih =>
    rw [of, path_ask_iff]
    constructor
    · rintro ⟨answer, later, path, rfl⟩
      obtain ⟨asked, rest, rfl⟩ := (ih answer).mp path
      exact ⟨⟨query, answer⟩ :: asked, .ask rest, rfl⟩
    · rintro ⟨asked, path, rfl⟩
      obtain ⟨answer, later, rest, rfl⟩ := Dialogue.path_ask_iff.mp path
      exact ⟨answer, _, (ih answer).mpr ⟨later, rest, rfl⟩, rfl⟩

theorem path_within_iff {enclose : σ → σ} {narrative : Narrative σ α} {turns : List (Turn σ)}
    {a : α} :
    Path (narrative.within enclose) turns a ↔
      ∃ inner, Path narrative inner a ∧ turns = inner.map (Turn.within enclose) := by
  induction narrative generalizing turns with
  | done b =>
    rw [within, path_done_iff]
    constructor
    · rintro ⟨rfl, rfl⟩
      exact ⟨[], .done a, rfl⟩
    · rintro ⟨inner, path, rfl⟩
      obtain ⟨rfl, rfl⟩ := path_done_iff.mp path
      exact ⟨rfl, rfl⟩
  | ask standing query next ih =>
    rw [within, path_ask_iff]
    constructor
    · rintro ⟨answer, later, path, rfl⟩
      obtain ⟨inner, rest, rfl⟩ := (ih answer).mp path
      exact ⟨⟨standing, ⟨query, answer⟩⟩ :: inner, .ask rest, rfl⟩
    · rintro ⟨inner, path, rfl⟩
      obtain ⟨answer, later, rest, rfl⟩ := path_ask_iff.mp path
      exact ⟨answer, _, (ih answer).mpr ⟨later, rest, rfl⟩, rfl⟩

/-- What the host hears is the turns without what was shown. -/
theorem Path.plain {narrative : Narrative σ α} {turns : List (Turn σ)} {a : α}
    (path : Path narrative turns a) :
    narrative.plain.Path (turns.map Turn.exchange) a := by
  induction path with
  | done a => exact .done a
  | ask later ih => exact .ask ih

/-- Whatever the host hears, something was shown with it. -/
theorem path_of_plain {narrative : Narrative σ α} {asked : List Exchange} {a : α}
    (path : narrative.plain.Path asked a) :
    ∃ turns, narrative.Path turns a ∧ turns.map Turn.exchange = asked := by
  induction narrative generalizing asked with
  | done b =>
    obtain ⟨rfl, rfl⟩ := Dialogue.path_done_iff.mp path
    exact ⟨[], .done a, rfl⟩
  | ask standing query next ih =>
    obtain ⟨answer, later, rest, rfl⟩ := Dialogue.path_ask_iff.mp path
    obtain ⟨turns, taken, rfl⟩ := ih answer rest
    exact ⟨_, .ask taken, rfl⟩

/-- The turns that a computation takes with a host. -/
def turns (host : Host τ) : Narrative σ α → τ → List (Turn σ)
  | done _, _ => []
  | ask standing query next, world =>
    ⟨standing, ⟨query, (host.answer query world).1⟩⟩ ::
      turns host (next (host.answer query world).1) (host.answer query world).2

theorem exchanges_plain (host : Host τ) (narrative : Narrative σ α) (world : τ) :
    narrative.plain.exchanges host world = (narrative.turns host world).map Turn.exchange := by
  induction narrative generalizing world with
  | done a => rfl
  | ask standing query next ih =>
    rw [plain, Dialogue.exchanges, ih, turns, List.map_cons]

/-- A run with a host takes its turns. -/
theorem run_path (host : Host τ) (narrative : Narrative σ α) (world : τ) :
    Path narrative (narrative.turns host world) (narrative.plain.run host world).1 := by
  induction narrative generalizing world with
  | done a => exact .done a
  | ask standing query next ih => exact .ask (ih _ _)

end Narrative

end BotScript
