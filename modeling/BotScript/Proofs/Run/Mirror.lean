import BotScript.Proofs.Memory.Load
import BotScript.Proofs.Memory.Slots
import BotScript.Proofs.Run.Flow

/-! Variables and the memory. A declared variable and its slot hold one value as long as statements
bind the variable only by setting it and remember nothing under the key of a slot: a set writes
both, and nothing else touches either. -/

namespace BotScript

open Environment (IsPlain)
open Exchange (Served)

/-- The slots of declared variables: their names are plain, and no two of them share a key. -/
structure Slot.Declares (slots : List (String × Slot)) : Prop where
  plain : ∀ name slot, Entries.get? slots name = some slot → IsPlain name
  apart : ∀ name other slot slot', Entries.get? slots name = some slot →
      Entries.get? slots other = some slot' →
    slot.key = slot'.key → name = other

/-- Statements bind declared variables only by setting them. -/
def Stmt.OnlySets (slots : List (String × Slot)) (stmts : List Stmt) : Prop :=
  ∀ stmt ∈ stmts, ∀ name, stmt.bound? = some name →
    IsPlain name ∧ ∀ slot, Entries.get? slots name = some slot → ∃ expr p, stmt = .set name expr p

/-- Records of what was remembered name no key of a slot. -/
def Step.Spares (slots : List (String × Slot)) (records : List Step) : Prop :=
  ∀ record ∈ records, record.kind = .remember → ∀ name slot, Entries.get? slots name = some slot →
    record.noted? "key" ≠ some slot.key

/-- The memory mirrors the declared variables: every one of them is bound, and its slot holds its
value, up to the typed default in the place of null. -/
def Mirrors (slots : List (String × Slot)) (env : Environment) (store : Store) : Prop :=
  ∀ name slot, Entries.get? slots name = some slot →
    ∃ value kept, env.get? name = some value ∧ (store.get slot.key).convert = .ok kept ∧
      MemoryAccess.orDefault slot kept = MemoryAccess.orDefault slot value

namespace Mirrors

variable {slots : List (String × Slot)} {env : Environment} {store : Store} {name : String}

/-- Plain names are different variables. -/
private theorem get?_bind_of_ne {other : String} (plain : IsPlain name)
    (other_plain : IsPlain other) (ne : name ≠ other) (value : Value) :
    (env.bind name value).get? other = env.get? other := by
  rw [Environment.get?_bind, plain, other_plain, if_neg ne]

/-- Of values bound one after the other, to different variables, each is the value of its
variable. -/
theorem get?_bindValues {values : List (String × Value)} {value : Value}
    (plain : ∀ pair ∈ values, IsPlain pair.1) (distinct : Entries.Distinct values)
    (member : (name, value) ∈ values) :
    (env.bindValues values).get? name = some value := by
  have own : IsPlain name := plain _ member
  have passed : ∀ (rest : List (String × Value)) (env : Environment),
      (∀ pair ∈ rest, IsPlain pair.1) →
      name ∉ Entries.keys rest → (env.bindValues rest).get? name = env.get? name := by
    intro rest
    induction rest with
    | nil => exact fun _ _ _ => rfl
    | cons first others ih =>
      intro env plain new
      obtain ⟨head, tail⟩ := List.forall_mem_cons.mp plain
      have ne : name ≠ first.1 := List.ne_of_not_mem_cons new
      rw [Environment.bindValues, ih _ tail (List.not_mem_of_not_mem_cons new),
        get?_bind_of_ne head own ne.symm]
  induction values generalizing env with
  | nil => cases member
  | cons first rest ih =>
    obtain ⟨head, tail⟩ := List.forall_mem_cons.mp plain
    obtain ⟨new, others⟩ := List.nodup_cons.mp distinct
    rcases List.mem_cons.mp member with rfl | later
    · rw [Environment.bindValues, passed rest _ tail new, Environment.get?_bind, if_pos rfl]
    · exact ih tail others later

/-- Of values that were read for declared variables, each is the value of its variable. -/
theorem get?_bindValues_of_slots {values : List (String × Value)} {value : Value}
    (plain : ∀ name slot, Entries.get? slots name = some slot → IsPlain name)
    (distinct : Entries.Distinct slots) (names : values.map Prod.fst = slots.map Prod.fst)
    (member : (name, value) ∈ values) :
    (env.bindValues values).get? name = some value := by
  refine get?_bindValues (fun pair among => ?_) ?_ member
  · obtain ⟨other, listed, same⟩ :=
      List.mem_map.mp (names ▸ List.mem_map_of_mem among : pair.1 ∈ slots.map Prod.fst)
    rw [← same]
    exact plain other.1 other.2 (Entries.get?_of_mem distinct listed)
  · have keys : Entries.keys values = Entries.keys slots := names
    rw [Entries.Distinct, keys]
    exact distinct

theorem bind (mirrors : Mirrors slots env store) (declares : Slot.Declares slots)
    (plain : IsPlain name) (undeclared : Entries.get? slots name = none) (value : Value) :
    Mirrors slots (env.bind name value) store := by
  intro other slot found
  have ne : name ≠ other := by
    rintro rfl
    rw [undeclared] at found
    cases found
  rw [get?_bind_of_ne plain (declares.plain other slot found) ne]
  exact mirrors other slot found

theorem restore {outer : Environment} (mirrors : Mirrors slots env store)
    (declares : Slot.Declares slots) (plain : IsPlain name)
    (undeclared : Entries.get? slots name = none) :
    Mirrors slots (env.restore (outer.save name)) store := by
  intro other slot found
  have ne : name ≠ other := by
    rintro rfl
    rw [undeclared] at found
    cases found
  rw [Environment.get?_restore, plain, declares.plain other slot found, if_neg ne]
  exact mirrors other slot found

/-- Setting a declared variable writes its value to both places. -/
theorem set {slot : Slot} {value : Value} (mirrors : Mirrors slots env store)
    (declares : Slot.Declares slots) (kept : Entries.get? slots name = some slot)
    (keyed : value.WellKeyed) :
    Mirrors slots (env.bind name value) (store.serve (.set slot.key value)).2 := by
  intro other slot' found
  have written (key : String) : (store.serve (.set slot.key value)).2.get key =
      if slot.key = key then Datum.ofValue value else store.get key := store.get_set slot.key key _
  rw [written]
  by_cases same : name = other
  · subst same
    obtain rfl := Option.some.inj (kept.symm.trans found)
    refine ⟨value, value, ?_, ?_, rfl⟩
    · rw [Environment.get?_bind, if_pos rfl]
    · rw [if_pos rfl]
      exact Datum.convert_ofValue keyed
  · have keys : slot.key ≠ slot'.key :=
      fun one => same (declares.apart name other slot slot' kept found one)
    rw [get?_bind_of_ne (declares.plain name slot kept) (declares.plain other slot' found) same,
      if_neg keys]
    exact mirrors other slot' found

/-- A call under a key that is no slot's leaves all slots as they are. -/
theorem spare {call : MemoryCall} (mirrors : Mirrors slots env store)
    (spares : ∀ name slot, Entries.get? slots name = some slot → call.key ≠ slot.key) :
    Mirrors slots env (store.serve call).2 := by
  intro name slot found
  have untouched : (store.serve call).2.get slot.key = store.get slot.key := by
    have ne := spares name slot found
    cases call with
    | get key => rfl
    | set key value => exact (store.get_set key slot.key _).trans (if_neg ne)
    | append key value => exact (store.get_append key slot.key _).trans (if_neg ne)
  rw [untouched]
  exact mirrors name slot found

/-- When the declared variables have been read and bound, the memory mirrors them. -/
theorem of_load {values : List (String × Value)} (declares : Slot.Declares slots)
    (distinct : Entries.Distinct slots) (loaded : store.load slots = .ok values)
    (env : Environment) : Mirrors slots (env.bindValues values) store := by
  obtain ⟨names, read⟩ := Store.mem_of_load loaded
  intro name slot found
  obtain ⟨kept, converted, member⟩ := read (name, slot) (Entries.mem_of_get? found)
  refine ⟨MemoryAccess.orDefault slot kept, kept, ?_, converted,
    (MemoryAccess.orDefault_idem slot kept).symm⟩
  exact get?_bindValues_of_slots declares.plain distinct names member

/-- What is read from the memory when the memory mirrors the variables. -/
theorem load (mirrors : Mirrors slots env store) (distinct : Entries.Distinct slots) :
    store.load slots = .ok (slots.map fun slot =>
      (slot.1, MemoryAccess.orDefault slot.2 ((env.get? slot.1).getD .null))) := by
  have loads : ∀ part ⊆ slots, store.load part =
      .ok (part.map fun slot =>
        (slot.1, MemoryAccess.orDefault slot.2 ((env.get? slot.1).getD .null))) := by
    intro part subset
    induction part with
    | nil => rfl
    | cons slot rest ih =>
      obtain ⟨member, others⟩ := List.cons_subset.mp subset
      obtain ⟨value, kept, bound, converted, same⟩ :=
        mirrors slot.1 slot.2 (Entries.get?_of_mem distinct member)
      rw [Store.load, converted, ih others, List.map_cons, bound]
      exact congrArg (fun value => Except.ok ((slot.1, value) :: _)) same
  exact loads slots (List.Subset.refl slots)

end Mirrors

/-- Statements that set declared variables and spare their slots keep them mirrored. -/
theorem Flow.mirrors {setup : Setup} {stmts : List Stmt} {env after : Environment}
    {sights : List (Turn Environment)} {result : Except (Option Cause) Unit} {store last : Store}
    (flow : Flow setup stmts env sights result after) (finished : result = .ok ())
    (served : Served store (sights.map Turn.exchange) last) (declares : Slot.Declares setup.slots)
    (sets : Stmt.OnlySets setup.slots stmts)
    (spares : Step.Spares setup.slots (Exchange.told (sights.map Turn.exchange)))
    (mirrors : Mirrors setup.slots env store) :
    Mirrors setup.slots after last := by
  induction flow generalizing store last with
  | still =>
    rw [served.last_of_quiet rfl]
    exact mirrors
  | fails | refused | behind => cases finished
  | @looks env exchange apart _ =>
    rw [served.last_of_quiet (List.filterMap_cons_none apart)]
    exact mirrors
  | @calls env call ended asked _ path =>
    rw [exchanges_of_asked] at served
    rw [served.last_of_quiet (ToolCall.perform_path path).calls]
    exact mirrors
  | @binds env stmt name value member target unkept _ =>
    obtain ⟨plain, only⟩ := sets stmt member name target
    rw [served.last_of_quiet rfl]
    refine mirrors.bind declares plain ?_ value
    cases kept : Entries.get? setup.slots name with
    | none => rfl
    | some slot =>
      obtain ⟨expr, p, same⟩ := only slot kept
      rw [unkept expr p same] at kept
      cases kept
  | @saves env name expr p slot value asked given member kept keyed path =>
    rw [exchanges_of_asked] at served
    cases given with
    | error fault => cases finished
    | ok written =>
      obtain single | ⟨-, _, impossible⟩ := (MemoryAccess.write_path path).calls
      · rw [served.last_of_call single]
        exact mirrors.set declares kept keyed
      · cases impossible
  | @remembers env _ _ _ _ call asked step told _ _ path kind noted =>
    rw [List.map_append, exchanges_of_asked] at served spares
    obtain ⟨middle, writing, telling⟩ := Served.append_iff.mp served
    obtain single | ⟨-, _, impossible⟩ := (MemoryAccess.write_path path).calls
    · rw [telling.last_of_quiet rfl, writing.last_of_call single]
      refine mirrors.spare fun name slot found same => ?_
      have listed : step ∈ Exchange.told (asked ++ [⟨.stepEnded step, told⟩]) := by
        rw [Exchange.told_append]
        exact List.mem_append_right _ List.mem_cons_self
      exact spares step listed kind name slot found (noted.trans (congrArg some same))
    · cases impossible
  | @reads env key asked given path =>
    rw [exchanges_of_asked] at served
    have unchanged : last = store := by
      rcases (MemoryAccess.read_path path).calls with single | ⟨quiet, -⟩
      · exact served.last_of_call single
      · exact served.last_of_quiet quiet
    rw [unchanged]
    exact mirrors
  | @loops env middle item collection body p sights result member rounds ih =>
    obtain ⟨plain, only⟩ := sets _ member item rfl
    refine (ih finished served spares mirrors).restore declares plain ?_
    cases kept : Entries.get? setup.slots item with
    | none => rfl
    | some slot =>
      obtain ⟨expr, p, impossible⟩ := only slot kept
      cases impossible
  | thens first later ihFirst ihLater =>
    rw [List.map_append] at served spares
    obtain ⟨middle, early, late⟩ := Served.append_iff.mp served
    rw [Exchange.told_append] at spares
    have parts := List.forall_mem_append.mp spares
    exact ihLater finished late parts.2 (ihFirst rfl early parts.1 mirrors)

end BotScript
