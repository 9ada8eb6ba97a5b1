import BotScript.Proofs.Memory.Served

/-! A store that two computations share. Each call is served whole, and the calls of the two follow
each other in any order. As long as neither writes a key that the other one uses, each gets the
answers that a store of its own would give, and the order leaves no trace in the store. -/

namespace BotScript

namespace MemoryCall

/-- The call changes what is under its key. -/
def writes : MemoryCall → Bool
  | get _ => false
  | set _ _ | append _ _ => true

/-- What is under the key behind the call. -/
def effect : MemoryCall → Option Datum → Option Datum
  | get _, existing => existing
  | set _ value, _ => some (Datum.ofValue value)
  | append _ value, existing => some (Store.extended (existing.getD .null) (Datum.ofValue value))

/-- Some calls keep clear of others: no key that they write is read or written by those. -/
def KeepClear (calls others : List MemoryCall) : Prop :=
  ∀ call ∈ calls, call.writes = true → ∀ other ∈ others, other.key ≠ call.key

instance (calls others : List MemoryCall) : Decidable (KeepClear calls others) :=
  inferInstanceAs (Decidable (∀ call ∈ calls, call.writes = true → ∀ other ∈ others,
    other.key ≠ call.key))

/-- The calls that change what is under a key. -/
def changing (key : String) (calls : List MemoryCall) : List MemoryCall :=
  calls.filter fun call => call.writes && call.key = key

theorem changing_append (key : String) (front back : List MemoryCall) :
    changing key (front ++ back) = changing key front ++ changing key back :=
  List.filter_append _ _

theorem changing_eq_nil_of_unused {key : String} {calls : List MemoryCall}
    (unused : ∀ call ∈ calls, call.key ≠ key) :
    changing key calls = [] :=
  List.filter_eq_nil_iff.mpr fun call member => by simp [unused call member]

/-- What others use is not changed by calls that keep clear of them. -/
theorem KeepClear.changing_eq_nil {calls others : List MemoryCall} (clear : KeepClear calls others)
    {other : MemoryCall} (listed : other ∈ others) : changing other.key calls = [] := by
  refine List.filter_eq_nil_iff.mpr fun call member chosen => ?_
  obtain ⟨writes, same⟩ := Bool.and_eq_true_iff.mp chosen
  exact clear call member writes other listed (of_decide_eq_true same).symm

/-- Of calls that keep clear of each other, only the one side changes what is under a key. -/
theorem KeepClear.one_side {calls others : List MemoryCall} (clear : KeepClear calls others)
    (key : String) :
    changing key calls = [] ∨ changing key others = [] := by
  cases changes : changing key calls with
  | nil => exact .inl rfl
  | cons call rest =>
    have member : call ∈ changing key calls := by
      rw [changes]
      exact List.mem_cons_self
    obtain ⟨among, chosen⟩ := List.mem_filter.mp member
    obtain ⟨writes, same⟩ := Bool.and_eq_true_iff.mp chosen
    refine .inr (changing_eq_nil_of_unused fun other listed => ?_)
    rw [← of_decide_eq_true same]
    exact clear call among writes other listed

end MemoryCall

namespace Store

/-- What is under a key, if anything is. -/
def find? (store : Store) (key : String) : Option Datum :=
  Entries.get? store.entries key

/-- The same keys lead to the same data, whatever their order is. -/
def Same (store other : Store) : Prop :=
  ∀ key, store.find? key = other.find? key

/-- The store behind some calls. -/
def after (store : Store) (calls : List MemoryCall) : Store :=
  calls.foldl (fun store call => (store.serve call).2) store

/-- Two stores have the same data under the keys of some calls. -/
def AgreesOn (calls : List MemoryCall) (store other : Store) : Prop :=
  ∀ call ∈ calls, store.find? call.key = other.find? call.key

variable {store other : Store} {call : MemoryCall}

theorem find?_serve (store : Store) (call : MemoryCall) (key : String) :
    (store.serve call).2.find? key = if call.key = key then call.effect (store.find? key)
      else store.find? key := by
  cases call with
  | get read => exact (ite_self _).symm
  | set written value => exact Entries.get?_put _ _ _ _
  | append written value =>
    refine (Entries.get?_put _ _ _ _).trans ?_
    change (if written = key then _ else _) = if written = key then _ else _
    split
    · rename_i same
      subst same
      rfl
    · rfl

theorem find?_serve_of_read (reads : call.writes = false) (key : String) :
    (store.serve call).2.find? key = store.find? key := by
  cases call with
  | get read => rfl
  | set | append => cases reads

/-- The answer to a call depends on what is under its key and on nothing else. -/
theorem serve_answer (same : store.find? call.key = other.find? call.key) :
    (store.serve call).1 = (other.serve call).1 := by
  cases call with
  | get key => exact congrArg (·.getD .null) same
  | set | append => rfl

/-- What is under a key behind some calls comes from those that change it. -/
theorem find?_after (store : Store) (calls : List MemoryCall) (key : String) :
    (store.after calls).find? key =
      (MemoryCall.changing key calls).foldl (fun existing call => call.effect existing)
        (store.find? key) := by
  induction calls generalizing store with
  | nil => rfl
  | cons call rest ih =>
    refine (ih _).trans ?_
    rw [find?_serve]
    unfold MemoryCall.changing
    by_cases same : call.key = key
    · cases call with
      | get => simp [MemoryCall.writes, MemoryCall.effect]
      | set | append => simp [MemoryCall.writes, same]
    · simp [same]

/-- Stores that agree go on agreeing when they serve the same call. -/
theorem AgreesOn.serve {calls : List MemoryCall} (agree : AgreesOn (call :: calls) store other) :
    AgreesOn calls (store.serve call).2 (other.serve call).2 := by
  intro later member
  rw [find?_serve, find?_serve, agree later (List.mem_cons_of_mem _ member)]

/-- A call that keeps clear of others makes no difference to them. -/
theorem AgreesOn.aside {calls : List MemoryCall} (agree : AgreesOn calls store other)
    (clear : call.writes = true → ∀ later ∈ calls, later.key ≠ call.key) :
    AgreesOn calls (store.serve call).2 other := by
  intro later member
  rw [← agree later member]
  cases written : call.writes with
  | false => exact find?_serve_of_read written _
  | true =>
    exact (find?_serve _ _ _).trans (if_neg fun same => clear written later member same.symm)

end Store

/-! ## Taking turns -/

/-- What two computations ask that take turns, each exchange on the side of the one that asks. -/
abbrev Turns := List (Exchange ⊕ Exchange)

namespace Turns

/-- What the first of the two asks. -/
def firsts (turns : Turns) : List Exchange :=
  turns.filterMap Sum.getLeft?

/-- What the second of the two asks. -/
def seconds (turns : Turns) : List Exchange :=
  turns.filterMap Sum.getRight?

/-- What is asked, no matter by whom. -/
def all (turns : Turns) : List Exchange :=
  turns.map (Sum.elim id id)

/-- The same with the sides exchanged. -/
def swap (turns : Turns) : Turns :=
  turns.map Sum.swap

@[simp] theorem firsts_swap (turns : Turns) : turns.swap.firsts = turns.seconds := by
  unfold firsts seconds swap
  rw [List.filterMap_map]
  exact congrArg (List.filterMap · turns) (funext fun turn => by cases turn <;> rfl)

@[simp] theorem seconds_swap (turns : Turns) : turns.swap.seconds = turns.firsts := by
  unfold firsts seconds swap
  rw [List.filterMap_map]
  exact congrArg (List.filterMap · turns) (funext fun turn => by cases turn <;> rfl)

@[simp] theorem all_swap (turns : Turns) : turns.swap.all = turns.all := by
  unfold all swap
  rw [List.map_map]
  exact congrArg (List.map · turns) (funext fun turn => by cases turn <;> rfl)

/-- Neither of the two writes a key that the other one reads or writes. -/
structure Apart (turns : Turns) : Prop where
  firsts :
    MemoryCall.KeepClear (Exchange.memoryCalls turns.firsts) (Exchange.memoryCalls turns.seconds)
  seconds :
    MemoryCall.KeepClear (Exchange.memoryCalls turns.seconds) (Exchange.memoryCalls turns.firsts)

instance (turns : Turns) : Decidable turns.Apart :=
  decidable_of_iff
    (MemoryCall.KeepClear (Exchange.memoryCalls turns.firsts) (Exchange.memoryCalls turns.seconds) ∧
      MemoryCall.KeepClear (Exchange.memoryCalls turns.seconds) (Exchange.memoryCalls turns.firsts))
    ⟨fun both => ⟨both.1, both.2⟩, fun apart => ⟨apart.firsts, apart.seconds⟩⟩

theorem Apart.swap {turns : Turns} (apart : turns.Apart) : turns.swap.Apart where
  firsts := by
    rw [firsts_swap, seconds_swap]
    exact apart.seconds
  seconds := by
    rw [firsts_swap, seconds_swap]
    exact apart.firsts

end Turns

namespace Exchange

open MemoryCall Turns

variable {store last own : Store} {turns : Turns}

/-- What the first one is served by the shared store, a store of its own serves as well that has the
same data under the keys of its calls. -/
theorem Served.firsts_alone (served : Served store turns.all last)
    (clear : KeepClear (memoryCalls turns.seconds) (memoryCalls turns.firsts))
    (agree : Store.AgreesOn (memoryCalls turns.firsts) store own) :
    ∃ after, Served own turns.firsts after := by
  induction turns generalizing store own with
  | nil => exact ⟨own, .done own⟩
  | cons turn rest ih =>
    cases turn with
    | inl exchange =>
      cases served with
      | call later =>
        have answer := Store.serve_answer (agree _ List.mem_cons_self)
        obtain ⟨after, alone⟩ := ih later (fun call member written other among =>
          clear call member written other (List.mem_cons_of_mem _ among)) agree.serve
        exact ⟨after, call_iff.mpr ⟨congrArg _ answer, alone⟩⟩
      | other apart later =>
        have same : memoryCalls (firsts (.inl exchange :: rest)) = memoryCalls (firsts rest) :=
          List.filterMap_cons_none apart
        rw [same] at clear agree
        obtain ⟨after, alone⟩ := ih later clear agree
        exact ⟨after, .other apart alone⟩
    | inr exchange =>
      cases served with
      | call later =>
        exact ih later (fun call member => clear call (List.mem_cons_of_mem _ member))
          (agree.aside (clear _ List.mem_cons_self))
      | other apart later =>
        have same : memoryCalls (seconds (.inr exchange :: rest)) = memoryCalls (seconds rest) :=
          List.filterMap_cons_none apart
        rw [same] at clear
        exact ih later clear agree

/-- Behind calls that keep clear of others, a store has the same data for those. -/
theorem Served.agreesOn {asked : List Exchange} {others : List MemoryCall}
    (served : Served store asked last) (clear : KeepClear (memoryCalls asked) others) :
    Store.AgreesOn others store last := by
  intro other listed
  have behind : last = store.after (memoryCalls asked) := served.last_eq
  rw [behind, Store.find?_after, clear.changing_eq_nil listed]
  rfl

/-- What the second one is served by the shared store, likewise. -/
theorem Served.seconds_alone (served : Served store turns.all last)
    (clear : KeepClear (memoryCalls turns.firsts) (memoryCalls turns.seconds))
    (agree : Store.AgreesOn (memoryCalls turns.seconds) store own) :
    ∃ after, Served own turns.seconds after := by
  rw [← all_swap] at served
  rw [← firsts_swap] at agree ⊢
  refine served.firsts_alone ?_ agree
  rw [firsts_swap, seconds_swap]
  exact clear

private theorem changing_cons (key : String) (exchange : Exchange) (rest : List Exchange) :
    changing key (memoryCalls (exchange :: rest)) =
      changing key (memoryCalls [exchange]) ++ changing key (memoryCalls rest) := by
  rw [← List.singleton_append, memoryCalls_append, changing_append]

/-- The calls that change what is under a key, when none of them is the second one's. -/
private theorem changing_all_of_seconds {key : String}
    (quiet : changing key (memoryCalls turns.seconds) = []) :
    changing key (memoryCalls turns.all) = changing key (memoryCalls turns.firsts) := by
  induction turns with
  | nil => rfl
  | cons turn rest ih =>
    cases turn with
    | inl exchange =>
      calc changing key (memoryCalls (exchange :: all rest))
        _ = changing key (memoryCalls [exchange]) ++ changing key (memoryCalls (all rest)) :=
          changing_cons _ _ _
        _ = changing key (memoryCalls [exchange]) ++ changing key (memoryCalls (firsts rest)) := by
          rw [ih quiet]
        _ = changing key (memoryCalls (exchange :: firsts rest)) := (changing_cons _ _ _).symm
    | inr exchange =>
      change changing key (memoryCalls (exchange :: seconds rest)) = [] at quiet
      obtain ⟨still, later⟩ := List.append_eq_nil_iff.mp ((changing_cons _ _ _).symm.trans quiet)
      calc changing key (memoryCalls (exchange :: all rest))
        _ = changing key (memoryCalls [exchange]) ++ changing key (memoryCalls (all rest)) :=
          changing_cons _ _ _
        _ = changing key (memoryCalls (firsts rest)) := by rw [still, ih later, List.nil_append]

/-- What changes the data under a key is the same in turns as one after the other. -/
theorem changing_all (apart : turns.Apart) (key : String) :
    changing key (memoryCalls turns.all) =
      changing key (memoryCalls turns.firsts ++ memoryCalls turns.seconds) := by
  rw [changing_append]
  rcases apart.firsts.one_side key with quiet | quiet
  · have swapped : changing key (memoryCalls turns.swap.seconds) = [] := by
      rw [seconds_swap]
      exact quiet
    rw [quiet, List.nil_append, ← all_swap, changing_all_of_seconds swapped, firsts_swap]
  · rw [quiet, List.append_nil, changing_all_of_seconds quiet]

/-- The store behind turns that are apart holds what it holds when the one is served after the
other. -/
theorem Served.same_as_one_by_one {middle other : Store} (served : Served store turns.all last)
    (apart : turns.Apart) (first : Served store turns.firsts middle)
    (second : Served middle turns.seconds other) : last.Same other := by
  intro key
  have behind : other = store.after (memoryCalls turns.firsts ++ memoryCalls turns.seconds) := by
    rw [second.last_eq, first.last_eq]
    exact List.foldl_append.symm
  have together : last = store.after (memoryCalls turns.all) := served.last_eq
  rw [together, behind, Store.find?_after, Store.find?_after, changing_all apart]

end Exchange

end BotScript
