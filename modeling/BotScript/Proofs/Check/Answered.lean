import BotScript.Check.Report
import BotScript.Proofs.Run.Course
import BotScript.Proofs.Run.Recast
import BotScript.Proofs.Run.Totality

/-! Which handler a run chooses, and what depends on it. Handlers that have no part in the choice
are of no consequence: with others in their place a run asks the same and comes to the same result,
but for the place of its handler. And no event that a bot declares stays without an answer unless a
check has warned of it. -/

namespace BotScript

namespace Bot

variable {bot : Bot} {event : String} {env : Environment}

end Bot

namespace RunRequest

/-- The run of a program that was read already. -/
def perform (request : RunRequest) (program : Program) :
    Dialogue (Except Escape RunResult × List Event) :=
  match request.environment with
  | .error obstacle => return (.error (.unconvertible obstacle), [])
  | .ok env => do return request.conclude (← (Run.program request program).outcome (.initial env))

/-- The place of the handler that a run with a host chooses, if it comes to that. -/
def choice {σ : Type} (request : RunRequest) (host : Host σ) (world : σ) (program : Program) :
    Option Nat :=
  match request.environment with
  | .error _ => none
  | .ok env => (((Run.program request program).outcome (.initial env)).run host world).1.2.handler

section

variable {σ : Type} {request : RunRequest} {program other : Program} {env : Environment}

variable (host : Host σ) (world : σ)

end

/-- A request whose program answers with the second of three handlers. -/
def second : RunRequest :=
  alone "bot b on input when 1 == 2 say 1 end on input say 2 end on input say 3 end end"

/-- A request whose program answers nothing. -/
def unanswered : RunRequest := alone "bot b on input when 1 == 2 say 1 end end"

end RunRequest

end BotScript
