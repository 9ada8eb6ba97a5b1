import BotScript.Memory.Private
import BotScript.Proofs.Alike.Traces
import BotScript.Proofs.Host.Exchange
import BotScript.Tool.Call

/-! Conversations that go alike. They ask the same questions, in the same order, as long as they get
the same answers to them; moments may differ as far as the slack allows, and what a listener says
makes no difference. So hosts that answer alike are asked for the same tools and the same memory. -/

namespace BotScript

namespace Dialogue

variable {α β γ δ : Type} {slack : Slack}

/-- Two conversations go alike and end with results that belong together. -/
inductive Alike (slack : Slack) {α β : Type} (ends : α → β → Prop) : Dialogue α → Dialogue β → Prop
  | done {a : α} {b : β} (same : ends a b) : Alike slack ends (.done a) (.done b)
  | observe {next : Moment → Dialogue α} {other : Moment → Dialogue β}
      (later : ∀ moment moment', slack.moments moment moment' →
        Alike slack ends (next moment) (other moment')) :
      Alike slack ends (.ask .observe next) (.ask .observe other)
  | tool {tool : Tool} {args : List (String × Value)} {next : Completion → Dialogue α}
      {other : Completion → Dialogue β}
      (later : ∀ completion, Alike slack ends (next completion) (other completion)) :
      Alike slack ends (.ask (.tool tool args) next) (.ask (.tool tool args) other)
  | awaitTool {tool : Tool} {next : Completion → Dialogue α} {other : Completion → Dialogue β}
      (later : ∀ completion, Alike slack ends (next completion) (other completion)) :
      Alike slack ends (.ask (.awaitTool tool) next) (.ask (.awaitTool tool) other)
  | memory {call : MemoryCall} {next : Completion → Dialogue α} {other : Completion → Dialogue β}
      (later : ∀ completion, Alike slack ends (next completion) (other completion)) :
      Alike slack ends (.ask (.memory call) next) (.ask (.memory call) other)
  | stepEnded {record record' : Step} {next : Bool → Dialogue α} {other : Bool → Dialogue β}
      (records : record.Alike slack record')
      (later : ∀ told told', Alike slack ends (next told) (other told')) :
      Alike slack ends (.ask (.stepEnded record) next) (.ask (.stepEnded record') other)

namespace Alike

variable {ends : α → β → Prop} {d : Dialogue α} {d' : Dialogue β}

theorem bind {further : γ → δ → Prop} {f : α → Dialogue γ} {f' : β → Dialogue δ}
    (first : Alike slack ends d d') (second : ∀ a b, ends a b → Alike slack further (f a) (f' b)) :
    Alike slack further (d >>= f) (d' >>= f') := by
  induction first with
  | done same => exact second _ _ same
  | observe _ ih => exact .observe fun moment moment' related => ih moment moment' related
  | tool _ ih => exact .tool ih
  | awaitTool _ ih => exact .awaitTool ih
  | memory _ ih => exact .memory ih
  | stepEnded records _ ih => exact .stepEnded records ih

/-- Conversations with a store each, which is the same at first. -/
theorem withStore (alike : Alike slack ends d d') (store : Store) :
    Alike slack (fun left right => ends left.1 right.1 ∧ left.2 = right.2) (d.withStore store)
      (d'.withStore store) := by
  induction alike generalizing store with
  | done same => exact .done ⟨same, rfl⟩
  | observe _ ih => exact .observe fun moment moment' related => ih moment moment' related store
  | tool _ ih => exact .tool fun completion => ih completion store
  | awaitTool _ ih => exact .awaitTool fun completion => ih completion store
  | memory _ ih => exact ih _ _
  | stepEnded records _ ih => exact .stepEnded records fun told told' => ih told told' store

end Alike

end Dialogue

/-! ## Hosts -/

/-- Two hosts answer alike, as long as their states belong together. What a listener says does not
count. -/
structure Host.Alike (slack : Slack) {σ τ : Type} (host : Host σ) (other : Host τ)
    (worlds : σ → τ → Prop) : Prop where
  observe : ∀ world world', worlds world world' →
    slack.moments (host.answer .observe world).1 (other.answer .observe world').1 ∧
      worlds (host.answer .observe world).2 (other.answer .observe world').2
  tool : ∀ tool args world world', worlds world world' →
    (host.answer (.tool tool args) world).1 = (other.answer (.tool tool args) world').1 ∧
      worlds (host.answer (.tool tool args) world).2 (other.answer (.tool tool args) world').2
  awaitTool : ∀ tool world world', worlds world world' →
    (host.answer (.awaitTool tool) world).1 = (other.answer (.awaitTool tool) world').1 ∧
      worlds (host.answer (.awaitTool tool) world).2 (other.answer (.awaitTool tool) world').2
  memory : ∀ call world world', worlds world world' →
    (host.answer (.memory call) world).1 = (other.answer (.memory call) world').1 ∧
      worlds (host.answer (.memory call) world).2 (other.answer (.memory call) world').2
  stepEnded : ∀ record record' world world', record.Alike slack record' → worlds world world' →
    worlds (host.answer (.stepEnded record) world).2 (other.answer (.stepEnded record') world').2

/-- A host answers like itself, when nothing may differ. -/
theorem Host.alike_self {slack : Slack} {σ : Type} (host : Host σ) (sharp : slack.Sharp)
    (same : slack.moments = Eq) :
    host.Alike slack host Eq where
  observe := by
    rintro world _ rfl
    rw [same]
    exact ⟨rfl, rfl⟩
  tool := by
    rintro tool args world _ rfl
    exact ⟨rfl, rfl⟩
  awaitTool := by
    rintro tool world _ rfl
    exact ⟨rfl, rfl⟩
  memory := by
    rintro call world _ rfl
    exact ⟨rfl, rfl⟩
  stepEnded := by
    rintro record record' world _ records rfl
    rw [records.eq sharp]

/-- What two conversations with hosts of their own have in common. -/
structure Dialogue.RunAlike {α β σ τ : Type} (ends : α → β → Prop) (worlds : σ → τ → Prop)
    (host : Host σ) (other : Host τ) (d : Dialogue α) (d' : Dialogue β) (world : σ) (world' : τ) :
    Prop where
  results : ends (d.run host world).1 (d'.run other world').1
  worlds : worlds (d.run host world).2 (d'.run other world').2
  toolRuns :
    Exchange.toolRuns (d.exchanges host world) = Exchange.toolRuns (d'.exchanges other world')
  memoryCalls :
    Exchange.memoryCalls (d.exchanges host world) = Exchange.memoryCalls (d'.exchanges other world')

section Run

variable {α β σ τ : Type} {slack : Slack} {ends : α → β → Prop} {worlds : σ → τ → Prop}
  {host : Host σ} {other : Host τ}
  {world : σ} {world' : τ}

/-- A question to which two hosts give the same answer. -/
private theorem Dialogue.RunAlike.ask {query : Query} {next : query.Answer → Dialogue α}
    {next' : query.Answer → Dialogue β}
    (answers : (host.answer query world).1 = (other.answer query world').1)
    (later : RunAlike ends worlds host other (next (host.answer query world).1)
      (next' (host.answer query world).1)
      (host.answer query world).2 (other.answer query world').2) :
    RunAlike ends worlds host other (.ask query next) (.ask query next') world world' := by
  have rest : RunAlike ends worlds host other (next (host.answer query world).1)
      (next' (other.answer query world').1)
      (host.answer query world).2 (other.answer query world').2 := by
    rw [← answers]
    exact later
  obtain ⟨results, last, runs, calls⟩ := rest
  refine ⟨results, last, ?_, ?_⟩
  · cases query <;> first | exact runs | exact congrArg (_ :: ·) runs
  · cases query <;> first | exact calls | exact congrArg (_ :: ·) calls

/-- With hosts that answer alike, conversations that go alike ask for the same and end alike. -/
theorem Dialogue.Alike.run {d : Dialogue α} {d' : Dialogue β} (alike : Alike slack ends d d')
    (hosts : host.Alike slack other worlds) (related : worlds world world') :
    RunAlike ends worlds host other d d' world world' := by
  induction alike generalizing world world' with
  | done same => exact ⟨same, related, rfl, rfl⟩
  | observe _ ih =>
    obtain ⟨moments, next⟩ := hosts.observe world world' related
    obtain ⟨results, last, runs, calls⟩ := ih _ _ moments next
    exact ⟨results, last, runs, calls⟩
  | tool _ ih =>
    obtain ⟨answers, next⟩ := hosts.tool _ _ world world' related
    exact .ask answers (ih _ next)
  | awaitTool _ ih =>
    obtain ⟨answers, next⟩ := hosts.awaitTool _ world world' related
    exact .ask answers (ih _ next)
  | memory _ ih =>
    obtain ⟨answers, next⟩ := hosts.memory _ world world' related
    exact .ask answers (ih _ next)
  | stepEnded records _ ih =>
    obtain ⟨results, last, runs, calls⟩ := ih _ _ (hosts.stepEnded _ _ world world' records related)
    exact ⟨results, last, runs, calls⟩

end Run

end BotScript
