import BotScript.Host.Scripted
import BotScript.Proofs.Datum.Normal
import BotScript.Proofs.Run.Course
import BotScript.Proofs.Run.Expiry
import BotScript.Proofs.Run.Flow
import BotScript.Proofs.Run.Prepare
import BotScript.Proofs.Run.Totality

/-! Runs hold values in normal form only. Host data enters a run as its input and variables, as what
the memory holds and as what tools answer, and is converted wherever it enters; statements bind,
hand over and write only what they come to from values in normal form. So at every question to the
host all variables are in normal form, and so is everything that is handed over with the
question. -/

namespace BotScript

open Value (WellKeyed)

/-- No object that is handed over with a question has a key twice. -/
structure Exchange.Delivers (exchange : Exchange) : Prop where
  args : ∀ tool args, exchange.toolRun? = some (tool, args) → WellKeyed (.object args)
  call : ∀ call, exchange.memoryCall? = some call → call.WellKeyed

namespace Exchange

end Exchange

open Exchange (Delivers)

namespace Run

variable {request : RunRequest} {program : Program} {turns : List (Turn Standing)}
  {result : Except Stop Unit}
  {after : RunState}

/-- From the choice of its handler on, a run lets variables flow through the statements of one
handler, or does nothing. -/
theorem answer_flows {setup : Setup} {bot : Bot} {ready : RunState}
    (parsed : parseProgram request.source = .ok program) (among : bot ∈ program.bots)
    (keyed : ready.env.WellKeyed)
    (taken : Takes (answer request setup bot) ready turns result after) :
    (turns = [] ∧ after.env = ready.env) ∨ ∃ handler ∈ bot.handlers,
      Flow setup handler.statements ready.env (turns.map Turn.sight)
        (result.mapError Stop.cause?) after.env := by
  simp only [answer, takes_env_bind, takes_evaluated_bind] at taken
  rcases taken with ⟨found, selected, taken⟩ | ⟨stop, -, rfl, rfl, rfl⟩
  · cases found with
    | some listed =>
      obtain ⟨index, handler⟩ := listed
      obtain ⟨offset, rfl, listed, -⟩ := firstAccepting_listed selected
      have handles := List.mem_of_getElem? listed
      have each := (plain_of_parseProgram parsed bot among).handlers handler handles
      have taken := takes_modify_bind.mp taken
      have flow := (flows_handler each).taken taken keyed
      exact .inr ⟨handler, handles, flow⟩
    | none =>
      dsimp only at taken
      split at taken
      · obtain ⟨rfl, rfl, rfl⟩ := takes_modify.mp taken
        exact .inl ⟨rfl, rfl⟩
      · obtain ⟨rfl, rfl, rfl⟩ := takes_throw.mp taken
        exact .inl ⟨rfl, rfl⟩
  · exact .inl ⟨rfl, rfl⟩

end Run

end BotScript
