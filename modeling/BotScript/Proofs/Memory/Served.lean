import BotScript.Memory.Private
import BotScript.Proofs.Host.Limits
import BotScript.Proofs.Host.Turns

/-! Memories that are stores. A computation with a memory of its own asks its host for everything
else; put back among the exchanges, the calls of the memory are answered by the store, one after the
other. -/

namespace BotScript

namespace Exchange

/-- The calls of the memory among some exchanges are answered by a store, one after the other;
behind them it is another one. -/
inductive Served : Store → List Exchange → Store → Prop
  | done (store : Store) : Served store [] store
  | call {store last : Store} {call : MemoryCall} {asked : List Exchange}
      (later : Served (store.serve call).2 asked last) :
      Served store (⟨.memory call, .returned (store.serve call).1⟩ :: asked) last
  | other {store last : Store} {exchange : Exchange} {asked : List Exchange}
      (apart : exchange.memoryCall? = none) (later : Served store asked last) :
      Served store (exchange :: asked) last

namespace Served

variable {store last : Store} {asked front back : List Exchange}

theorem append_iff :
    Served store (front ++ back) last ↔
      ∃ middle, Served store front middle ∧ Served middle back last := by
  constructor
  · intro served
    induction front generalizing store with
    | nil => exact ⟨store, .done store, served⟩
    | cons exchange rest ih =>
      cases served with
      | call later =>
        obtain ⟨middle, first, second⟩ := ih later
        exact ⟨middle, .call first, second⟩
      | other apart later =>
        obtain ⟨middle, first, second⟩ := ih later
        exact ⟨middle, .other apart first, second⟩
  · rintro ⟨middle, first, second⟩
    induction first with
    | done => exact second
    | call _ ih => exact .call (ih second)
    | other apart _ ih => exact .other apart (ih second)

/-- The calls alone change the store. -/
theorem last_eq (served : Served store asked last) :
    last = (memoryCalls asked).foldl (fun store call => (store.serve call).2) store := by
  induction served with
  | done => rfl
  | call _ ih => exact ih
  | @other _ _ exchange asked apart _ ih =>
    have same : memoryCalls (exchange :: asked) = memoryCalls asked :=
      List.filterMap_cons_none apart
    rw [ih, same]

/-- Where the memory is not called, it stays as it is. -/
theorem last_of_quiet (served : Served store asked last) (quiet : memoryCalls asked = []) :
    last = store := by
  rw [served.last_eq, quiet]
  rfl

theorem last_of_call {call : MemoryCall} (served : Served store asked last)
    (single : memoryCalls asked = [call]) :
    last = (store.serve call).2 := by
  rw [served.last_eq, single]
  rfl

/-- A call that is asked first is the store's to answer. -/
theorem call_iff {call : MemoryCall} {completion : Completion} :
    Served store (⟨.memory call, completion⟩ :: asked) last ↔
      completion = .returned (store.serve call).1 ∧ Served (store.serve call).2 asked last := by
  constructor
  · intro served
    cases served with
    | call later => exact ⟨rfl, later⟩
    | other apart _ => cases apart
  · rintro ⟨rfl, later⟩
    exact .call later

/-- What is no call of the memory is no concern of the store. -/
theorem other_iff {exchange : Exchange} (apart : exchange.memoryCall? = none) :
    Served store (exchange :: asked) last ↔ Served store asked last := by
  constructor
  · intro served
    cases served with
    | call => cases apart
    | other _ later => exact later
  · exact .other apart

end Served

end Exchange

namespace Dialogue

variable {α : Type}

/-- What a computation with a store of its own does, it does with a memory that the store answers
for; its host does not hear of the memory. -/
theorem path_withStore {d : Dialogue α} {store last : Store} {outside : List Exchange} {a : α}
    (path : (d.withStore store).Path outside (a, last)) :
    ∃ asked, d.Path asked a ∧ Exchange.Served store asked last ∧
      outside = asked.filter (·.memoryCall?.isNone) := by
  induction d generalizing store outside with
  | done b =>
    obtain ⟨rfl, same⟩ := path_done_iff.mp path
    obtain ⟨rfl, rfl⟩ := Prod.mk.inj same
    exact ⟨[], .done a, .done last, rfl⟩
  | ask query next ih =>
    cases query with
    | memory call =>
      obtain ⟨asked, later, served, rfl⟩ := ih _ path
      exact ⟨_, .ask later, .call served, rfl⟩
    | observe | tool | awaitTool | stepEnded =>
      obtain ⟨answer, rest, inner, rfl⟩ := path_ask_iff.mp path
      obtain ⟨asked, later, served, rfl⟩ := ih answer inner
      exact ⟨_, .ask later, .other rfl served, rfl⟩

end Dialogue

end BotScript
