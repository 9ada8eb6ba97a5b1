import BotScript.Proofs.Evaluation.Keys
import BotScript.Proofs.Memory.Served

/-! Reading declared variables from a memory that is a store. Reading changes nothing; it comes to
the values that are converted from what the store holds, with the typed default in the place of
null. -/

namespace BotScript

open Dialogue Exchange

/-- What the declared variables are, going by a store. -/
def Store.load (store : Store) :
    List (String × Slot) → Except Datum.Obstacle (List (String × Value))
  | [] => .ok []
  | (name, slot) :: rest => do
    let value ← (store.get slot.key).convert
    let values ← store.load rest
    return (name, MemoryAccess.orDefault slot value) :: values

/-- Each declared variable is among those that are read, with the value of its slot. -/
theorem Store.mem_of_load {store : Store} {slots : List (String × Slot)}
    {values : List (String × Value)} (loaded : store.load slots = .ok values) :
    values.map Prod.fst = slots.map Prod.fst ∧
      ∀ slot ∈ slots, ∃ kept, (store.get slot.2.key).convert = .ok kept ∧
      (slot.1, MemoryAccess.orDefault slot.2 kept) ∈ values := by
  induction slots generalizing values with
  | nil =>
    obtain rfl := Except.ok.inj loaded
    exact ⟨rfl, List.forall_mem_nil _⟩
  | cons slot rest ih =>
    rw [Store.load] at loaded
    cases converted : (store.get slot.2.key).convert with
    | error obstacle =>
      rw [converted] at loaded
      cases loaded
    | ok value =>
      cases others : store.load rest with
      | error obstacle =>
        rw [converted, others] at loaded
        cases loaded
      | ok more =>
        rw [converted, others] at loaded
        obtain rfl := Except.ok.inj loaded
        obtain ⟨names, read⟩ := ih others
        refine ⟨congrArg (slot.1 :: ·) names,
          List.forall_mem_cons.mpr ⟨⟨value, converted, List.mem_cons_self⟩, ?_⟩⟩
        intro other member
        obtain ⟨kept, found, among⟩ := read other member
        exact ⟨kept, found, List.mem_cons_of_mem _ among⟩

namespace MemoryAccess

variable {access : MemoryAccess} {call : MemoryCall} {asked : List Exchange} {store last : Store}

/-- A default in the place of null stays when it is read again. -/
theorem orDefault_idem (slot : Slot) (value : Value) :
    orDefault slot (orDefault slot value) = orDefault slot value := by
  by_cases null : value.isNull
  · have first : orDefault slot value = Slot.defaultValue slot.typeName := if_pos null
    rw [first]
    by_cases still : (Slot.defaultValue slot.typeName).isNull
    · exact if_pos still
    · exact if_neg still
  · have first : orDefault slot value = value := if_neg null
    rw [first, first]

/-- A call that succeeds gives what the store answers. -/
theorem perform_served {datum : Datum} (path : Path (access.perform call) asked (.ok datum))
    (served : Served store asked last) :
    datum = (store.serve call).1 ∧ last = (store.serve call).2 := by
  unfold perform at path
  split at path
  · obtain ⟨given, front, back, guarded, rest, rfl⟩ := path_bind_iff.mp path
    obtain ⟨rfl, same⟩ := path_pure_iff.mp rest
    rw [List.append_nil] at served
    cases given with
    | error error => cases same
    | ok yield =>
      obtain ⟨before, middle, behind, completion, bound, rfl, quiet, started, settled⟩ :=
        guarded_ok guarded
      obtain rfl := path_query_iff.mp started
      obtain ⟨first, early, late⟩ := Served.append_iff.mp served
      have kept := early.last_of_quiet quiet.calls
      subst kept
      obtain ⟨rfl, later⟩ := Served.call_iff.mp late
      obtain rfl := settle_returned settled
      exact ⟨Except.ok.inj same, later.last_of_quiet (settle_quiet settled).calls⟩
  · cases (path_pure_iff.mp path).2

theorem read_served {key : String} {value : Value} (path : Path (access.read key) asked (.ok value))
    (served : Served store asked last) : last = store ∧ (store.get key).convert = .ok value := by
  obtain ⟨given, front, back, performed, rest, rfl⟩ := path_bind_iff.mp path
  cases given with
  | error fault => cases (path_pure_iff.mp rest).2
  | ok datum =>
    obtain ⟨rfl, same⟩ := path_pure_iff.mp rest
    rw [List.append_nil] at served
    obtain ⟨rfl, same'⟩ := perform_served performed served
    refine ⟨same', ?_⟩
    have read : (store.serve (.get key)).1 = store.get key := rfl
    rw [read] at same
    cases converted : (store.get key).convert with
    | ok found =>
      rw [converted] at same
      exact congrArg Except.ok (Except.ok.inj same).symm
    | error obstacle =>
      rw [converted] at same
      cases same

/-- Declared variables are read as the store has them. -/
theorem hydrate_served {slots : List (String × Slot)} {values : List (String × Value)}
    (path : Path (access.hydrate slots) asked (.ok values)) (served : Served store asked last) :
    last = store ∧ store.load slots = .ok values := by
  induction slots generalizing asked values last with
  | nil =>
    obtain ⟨rfl, same⟩ := path_pure_iff.mp path
    obtain rfl := Except.ok.inj same
    exact ⟨served.last_of_quiet rfl, rfl⟩
  | cons slot rest ih =>
    obtain ⟨given, front, back, first, later, rfl⟩ := path_bind_iff.mp path
    obtain ⟨middle, early, late⟩ := Served.append_iff.mp served
    cases given with
    | error stop => cases (path_pure_iff.mp later).2
    | ok value =>
      obtain ⟨same, converted⟩ := read_served first early
      subst same
      obtain ⟨others, front', back', more, ended, rfl⟩ := path_bind_iff.mp later
      cases others with
      | error stop => cases (path_pure_iff.mp ended).2
      | ok values =>
        obtain ⟨rfl, same⟩ := path_pure_iff.mp ended
        obtain rfl := Except.ok.inj same
        rw [List.append_nil] at late
        obtain ⟨same, loaded⟩ := ih more late
        refine ⟨same, ?_⟩
        rw [Store.load, converted, loaded]
        rfl

/-! ## Reading without hindrance -/

/-- There is a memory, and the host never gives a moment at which the access has to stop. -/
def Unhindered {σ : Type} (access : MemoryAccess) (host : Host σ) : Prop :=
  access.connected = true ∧ ∀ world phase,
    checkMoment access.deadline (host.answer .observe world).1 phase = .ok ()

section

variable {σ : Type} {host : Host σ}

theorem read_run (unhindered : access.Unhindered host) (key : String) (store : Store) (world : σ) :
    (((access.read key).withStore store).run host world).1 =
      ((store.get key).convert.mapError fun obstacle =>
        .escape (.unconvertible obstacle), store) := by
  obtain ⟨connected, goes⟩ := unhindered
  simp only [read, perform, if_pos connected, Dialogue.guarded, Dialogue.settle, Dialogue.accept,
    Dialogue.query, Dialogue.pure_eq, Dialogue.ask_bind, Dialogue.done_bind, Dialogue.withStore,
    Dialogue.run, goes]
  rfl

/-- Reading the declared variables without hindrance comes to what the store holds. -/
theorem hydrate_run (unhindered : access.Unhindered host) (slots : List (String × Slot))
    (store : Store) (world : σ) :
    (((access.hydrate slots).withStore store).run host world).1 =
      ((store.load slots).mapError fun obstacle => .escape (.unconvertible obstacle), store) := by
  induction slots generalizing world with
  | nil => rfl
  | cons slot rest ih =>
    rw [hydrate, Dialogue.withStore_bind, Dialogue.run_bind, read_run unhindered, Store.load]
    cases converted : (store.get slot.2.key).convert with
    | error obstacle => rfl
    | ok value =>
      change ((Dialogue.withStore store (access.hydrate rest >>= _)).run host _).1 = _
      rw [Dialogue.withStore_bind, Dialogue.run_bind, ih]
      cases loaded : store.load rest <;> rfl

end

end MemoryAccess

end BotScript
