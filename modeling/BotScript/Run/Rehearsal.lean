import BotScript.Host.Scripted
import BotScript.Run.Execute

/-!
Runs with a scripted host, one after the other. Tools, memory and clock go on from run to run; what
a run called and whom it told is seen for each run apart.
-/

namespace BotScript

/-- When a run is cancelled. -/
structure CancelPlan where
  /-- Before it starts. -/
  before : Bool
  /-- When the listener has heard of this many statements. -/
  after : Option Nat

/-- A run and its circumstances. -/
structure Scene where
  request : RunRequest
  listener : Listener
  /-- None for a run that nothing can cancel. -/
  cancel : Option CancelPlan
  /-- The run has a memory of its own, which is gone behind it. -/
  detached : Bool

/-- What came of a run. -/
structure Performance where
  result : Except Escape RunResult
  journal : List Event
  /-- The host behind the run; it still knows what it was asked. -/
  world : World

namespace Scene

/-- The host when a run begins. -/
def opening (scene : Scene) (world : World) : World :=
  { world with
    cancellable := scene.cancel.isSome
    cancelled := (scene.cancel.map CancelPlan.before).getD false
    cancelAfter := scene.cancel.bind CancelPlan.after
    listener := scene.listener
    toolCalls := []
    memoryCalls := []
    heard := [] }

/-- What the host is asked. -/
def dialogue (scene : Scene) : Dialogue (Except Escape RunResult × List Event) :=
  if scene.detached then Prod.fst <$> scene.request.execute.withStore .empty
    else scene.request.execute

/-- A run played with a host. -/
def play (scene : Scene) (world : World) : Performance :=
  match scene.dialogue.run World.host (scene.opening world) with
  | ((result, journal), after) => ⟨result, journal, after⟩

/-- Runs played one after the other, and the host behind all of them. -/
def playAll (world : World) : List Scene → List Performance × World
  | [] => ([], world)
  | scene :: rest =>
    let performance := scene.play world
    let (performances, last) := playAll performance.world rest
    (performance :: performances, last)

end Scene

end BotScript
