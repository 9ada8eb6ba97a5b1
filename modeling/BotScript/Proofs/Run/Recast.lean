import BotScript.Proofs.Run.Detached
import BotScript.Proofs.Run.Prepare
import BotScript.Proofs.Run.Selection

/-! Runs of programs that differ in their handlers. Up to the choice of its handler a run does not
look at handlers at all, and afterwards it has nothing to do with the choice; so handlers that have
no part in the choice can be added, removed or replaced. -/

namespace BotScript

namespace Dialogue

variable {α β σ : Type} (host : Host σ)

theorem exchanges_bind (d : Dialogue α) (f : α → Dialogue β) (world : σ) :
    (d >>= f).exchanges host world =
      d.exchanges host world ++ (f (d.run host world).1).exchanges host (d.run host world).2 := by
  induction d generalizing world with
  | done a => rfl
  | ask query next ih => exact congrArg (_ :: ·) (ih _ _)

end Dialogue

namespace Run

open Exchange Dialogue

variable {σ : Type} {request : RunRequest} {program other : Program} {bot bot' : Bot}
  {setup : Setup}

section Hosts

variable {α : Type} (host : Host σ) {world : σ} {env : Environment}

/-- With a host two dialogues go the same way, and their ends differ at most in the handler that was
chosen. -/
def Echoes (world : σ) (dialogue dialogue' : Dialogue (Except Stop α × RunState)) : Prop :=
  dialogue'.exchanges host world = dialogue.exchanges host world ∧
    ∃ handler, dialogue'.run host world =
      (((dialogue.run host world).1.1, (dialogue.run host world).1.2.choosing handler),
        (dialogue.run host world).2)

theorem Echoes.refl (dialogue : Dialogue (Except Stop α × RunState)) :
    Echoes host world dialogue dialogue :=
  ⟨rfl, (dialogue.run host world).1.2.handler, rfl⟩

/-- Dialogues that begin in the same way. -/
theorem Echoes.behind {β : Type} {first : Dialogue β}
    {next next' : β → Dialogue (Except Stop α × RunState)}
    (later : Echoes host (first.run host world).2 (next (first.run host world).1)
      (next' (first.run host world).1)) :
    Echoes host world (first >>= next) (first >>= next') := by
  obtain ⟨asked, handler, ran⟩ := later
  refine ⟨?_, handler, ?_⟩
  · rw [exchanges_bind, exchanges_bind, asked]
  · rw [run_bind, run_bind, ran]

/-- A part that has nothing to do with the handler, after one choice and after another one. -/
theorem Detached.echoes {past : List Exchange} {part : Run α} (detached : Detached past part)
    (state : RunState) (one another : Option Nat) :
    Echoes host world (part.outcome (state.choosing one))
      (part.outcome (state.choosing another)) := by
  refine ⟨?_, another, ?_⟩
  · rw [detached.blind, detached.blind, exchanges_bind, exchanges_bind]
    rfl
  · rw [detached.blind, detached.blind, run_bind, run_bind]
    rfl

end Hosts

end Run

end BotScript
