import BotScript.Host.Dialogue
import BotScript.Memory.Store

/-!
A memory that answers a run's calls itself. The host never hears of them; everything else still goes
to the host.
-/

namespace BotScript

namespace Store

/-- The answer to a call, and the memory behind it. -/
def serve (store : Store) : MemoryCall → Datum × Store
  | .get key => (store.get key, store)
  | .set key value => (.null, store.set key (Datum.ofValue value))
  | .append key value => (.null, store.append key (Datum.ofValue value))

end Store

namespace Dialogue

variable {α β σ : Type}

/-- A computation whose memory is a store: its result, and the store behind it. -/
def withStore (store : Store) : Dialogue α → Dialogue (α × Store)
  | done a => done (a, store)
  | ask (.memory call) next =>
    withStore (store.serve call).2 (next (.returned (store.serve call).1))
  | ask .observe next => ask .observe fun moment => withStore store (next moment)
  | ask (.tool tool args) next => ask (.tool tool args) fun completion =>
    withStore store (next completion)
  | ask (.awaitTool tool) next => ask (.awaitTool tool) fun completion =>
    withStore store (next completion)
  | ask (.stepEnded step) next => ask (.stepEnded step) fun told => withStore store (next told)

@[simp] theorem withStore_done (store : Store) (a : α) :
    (done a).withStore store = done (a, store) := rfl

/-- The parts of a computation share one store. -/
theorem withStore_bind (store : Store) (d : Dialogue α) (f : α → Dialogue β) :
    (d >>= f).withStore store = d.withStore store >>= fun pair => (f pair.1).withStore pair.2 := by
  induction d generalizing store with
  | done a => rfl
  | ask query next ih =>
    cases query with
    | memory call => exact ih _ _
    | observe | tool | awaitTool | stepEnded => simp [withStore, ih]

end Dialogue

end BotScript
