import BotScript.Host.Scripted
import BotScript.Proofs.Run.Concurrent

/-! Runs that append to one key of a memory that they share. Each call is served whole, and the
calls of all the runs follow each other in any order. As long as the key is only appended to and
read, nothing is lost of what is appended: the memory holds it in the order of the calls, behind
what there was before, and every read shows it as far as it has come. -/

namespace BotScript

/-! ## A key that is appended to -/

/-- The items that appending keeps: of null there are none, and data that is no list is the only
one. -/
def Datum.gathered : Datum → List Datum
  | .null => []
  | .list items => items
  | other => [other]

/-- Data behind some appends: as it is when there were none, and otherwise a list. -/
def Datum.behind (existing : Datum) (items : List Datum) : Datum :=
  if items.isEmpty then existing else .list (existing.gathered ++ items)

theorem Store.extended_eq (existing item : Datum) :
    extended existing item = .list (existing.gathered ++ [item]) := by
  cases existing <;> rfl

theorem Datum.behind_extended (existing item : Datum) (items : List Datum) :
    (Store.extended existing item).behind items = existing.behind (item :: items) := by
  rw [Store.extended_eq]
  cases items <;> simp [behind, gathered]

theorem Datum.behind_of_ne_nil {existing : Datum} {items : List Datum} (nonempty : items ≠ []) :
    existing.behind items = .list (existing.gathered ++ items) :=
  if_neg fun empty => nonempty (List.isEmpty_iff.mp empty)

namespace Exchange

/-- The value that is appended under a key. -/
def appended? (key : String) (exchange : Exchange) : Option Value :=
  match exchange.memoryCall? with
  | some (.append other value) => if other = key then some value else none
  | _ => none

variable {key : String} {store last : Store} {asked : List Exchange}

/-- A key that is never set holds what was appended behind what was there. -/
theorem Served.get_behind (served : Served store asked last)
    (unset : ∀ value, .set key value ∉ memoryCalls asked) :
    last.get key = (store.get key).behind
      ((asked.filterMap (appended? key)).map Datum.ofValue) := by
  induction served with
  | done => rfl
  | @other _ _ exchange asked apart _ ih =>
    have nothing : exchange.appended? key = none := by rw [appended?, apart]
    have calls : memoryCalls (exchange :: asked) = memoryCalls asked :=
      List.filterMap_cons_none apart
    rw [calls] at unset
    rw [ih unset, List.filterMap_cons_none nothing]
  | @call store last call asked _ ih =>
    have later : ∀ value, .set key value ∉ memoryCalls asked :=
      fun value member => unset value (List.mem_cons_of_mem _ member)
    rw [ih later]
    cases call with
    | get other => rfl
    | set other value =>
      have ne : other ≠ key := by
        rintro rfl
        exact unset value List.mem_cons_self
      have kept : (store.serve (.set other value)).2.get key = store.get key :=
        (store.get_set other key _).trans (if_neg ne)
      rw [kept]
      rfl
    | append other value =>
      have step : (store.serve (.append other value)).2.get key = _ := store.get_append other key _
      rw [step, List.filterMap_cons]
      by_cases same : other = key
      · subst same
        rw [if_pos rfl, Datum.behind_extended]
        simp [appended?, memoryCall?]
      · rw [if_neg same]
        simp [appended?, memoryCall?, same]

end Exchange

/-! ## Many that take turns -/

/-- What several computations ask that take turns, each exchange with the one that asks. -/
abbrev Schedule (ι : Type) := List (ι × Exchange)

namespace Schedule

open Exchange

variable {ι : Type}

/-- What is asked, no matter by whom. -/
def all (turns : Schedule ι) : List Exchange :=
  turns.map Prod.snd

/-- What is appended under a key, each value with the one that appends it. -/
def appended (key : String) (turns : Schedule ι) : List (ι × Value) :=
  turns.filterMap fun turn => (turn.2.appended? key).map (turn.1, ·)

theorem appended_all (key : String) (turns : Schedule ι) :
    turns.all.filterMap (appended? key) = (turns.appended key).map Prod.snd := by
  rw [all, appended, List.filterMap_map, List.map_filterMap]
  refine congrArg (List.filterMap · turns) (funext fun turn => ?_)
  cases given : turn.2.appended? key <;> simp [given]

variable [DecidableEq ι]

/-- What one of them asks. -/
def of (turns : Schedule ι) (one : ι) : List Exchange :=
  (turns.filter (·.1 = one)).map Prod.snd

/-- Of all that is appended, the values of one of them are those that it appends itself, in its own
order. -/
theorem appended_of (key : String) (turns : Schedule ι) (one : ι) :
    ((turns.appended key).filter (·.1 = one)).map Prod.snd =
      (turns.of one).filterMap (appended? key) := by
  induction turns with
  | nil => rfl
  | cons turn rest ih =>
    unfold appended of at *
    cases given : turn.2.appended? key with
    | none => by_cases own : turn.1 = one <;> simp [given, own, ih]
    | some value => by_cases own : turn.1 = one <;> simp [given, own, ih]

/-- What several runs append under a key is gathered there. -/
structure Gathers (key : String) (requests : ι → RunRequest) (store : Store) (turns : Schedule ι)
    (last : Store) : Prop where
  /-- In the end the key holds what was there before and then all that was appended, in the order of
  the calls. -/
  held : last.find? key =
    some (.list ((store.get key).gathered ++
      (turns.appended key).map fun pair => Datum.ofValue pair.2))
  /-- What each run appended stands there once and in the order in which the run, on a way through
  its program, did so. -/
  own : ∀ one, ∃ rest result, (requests one).execute.Path (turns.of one ++ rest) result ∧
    ((turns.appended key).filter (·.1 = one)).map Prod.snd =
      (turns.of one).filterMap (appended? key)
  /-- A read before the first append shows what was there before. -/
  early : ∀ (front back : Schedule ι) one completion,
      turns = front ++ (one, ⟨.memory (.get key), completion⟩) :: back →
    front.appended key = [] → completion = .returned (store.get key)
  /-- A later one shows the list as far as it has come. -/
  late : ∀ (front back : Schedule ι) one completion,
      turns = front ++ (one, ⟨.memory (.get key), completion⟩) :: back →
    front.appended key ≠ [] → completion = .returned
      (.list ((store.get key).gathered ++
        (front.appended key).map fun pair => Datum.ofValue pair.2))
  /-- What any key holds comes of the calls that change it. -/
  others : ∀ other, last.find? other =
    (MemoryCall.changing other (memoryCalls turns.all)).foldl
      (fun existing call => call.effect existing) (store.find? other)

end Schedule

namespace RunRequest

open Exchange

variable {ι : Type} [DecidableEq ι] {requests : ι → RunRequest} {store last : Store}
  {turns : Schedule ι}

/-- Runs share a store and take turns, each as far as it has come. -/
structure Share (requests : ι → RunRequest) (store : Store) (turns : Schedule ι) (last : Store) :
    Prop where
  runs : ∀ one, ∃ rest result, (requests one).execute.Path (turns.of one ++ rest) result
  served : Served store turns.all last

/-- What an answer to a read shows is what the store held by then. -/
theorem Share.read {front back : Schedule ι} {one : ι} {key : String} {completion : Completion}
    (share : Share requests store turns last)
    (cut : turns = front ++ (one, ⟨.memory (.get key), completion⟩) :: back) :
    ∃ middle, Served store front.all middle ∧ completion = .returned (middle.get key) := by
  have served := share.served
  rw [cut, Schedule.all, List.map_append, List.map_cons] at served
  obtain ⟨middle, early, late⟩ := Served.append_iff.mp served
  exact ⟨middle, early, (Served.call_iff.mp late).1⟩

/-- Appends are never lost. Let any number of runs share a store, with their calls in any order, and
let a key be appended to but never set. Then it is gathered under the key what they append. -/
theorem Share.gathers {key : String} (share : Share requests store turns last)
    (unset : ∀ value, .set key value ∉ memoryCalls turns.all) (begun : turns.appended key ≠ []) :
    Schedule.Gathers key requests store turns last := by
  have items (front : Schedule ι) : (front.all.filterMap (appended? key)).map Datum.ofValue =
      (front.appended key).map fun pair => Datum.ofValue pair.2 := by
    rw [Schedule.appended_all, List.map_map]
    rfl
  have reads : ∀ (front back : Schedule ι) one completion,
      turns = front ++ (one, ⟨.memory (.get key), completion⟩) :: back →
      completion = .returned ((store.get key).behind
        ((front.appended key).map fun pair => Datum.ofValue pair.2)) := by
    intro front back one completion cut
    obtain ⟨middle, served, rfl⟩ := share.read cut
    have early : ∀ value, .set key value ∉ memoryCalls front.all := by
      intro value member
      refine unset value ?_
      rw [cut, Schedule.all, List.map_append, memoryCalls_append]
      exact List.mem_append_left _ member
    rw [served.get_behind early, items]
  constructor
  · have got := share.served.get_behind unset
    rw [items, Datum.behind_of_ne_nil (mt List.map_eq_nil_iff.mp begun)] at got
    change (last.find? key).getD .null = _ at got
    cases found : last.find? key with
    | none =>
      rw [found] at got
      cases got
    | some held =>
      rw [found] at got
      exact congrArg Option.some got
  · intro one
    obtain ⟨rest, result, path⟩ := share.runs one
    exact ⟨rest, result, path, Schedule.appended_of key turns one⟩
  · intro front back one completion cut unappended
    rw [reads front back one completion cut, unappended]
    rfl
  · intro front back one completion cut later
    rw [reads front back one completion cut,
      Datum.behind_of_ne_nil (mt List.map_eq_nil_iff.mp later)]
  · intro other
    have behind : last = store.after (memoryCalls turns.all) := share.served.last_eq
    rw [behind, Store.find?_after]

end RunRequest

/-! ## Many turns that follow a plan -/

namespace Dialogue

open Exchange

variable {ι α : Type}

theorem exists_path (d : Dialogue α) : ∃ asked a, d.Path asked a :=
  ⟨_, _, run_path World.host d (World.bare [])⟩

theorem turn?_path {tools : Toolbox} {store store' : Store} {args args' : List (String × Value)}
    {d d' : Dialogue α} {exchange : Exchange} {asked : List Exchange} {a : α}
    (taken : d.turn? tools store args = some (exchange, args', d', store'))
    (later : d'.Path asked a) :
    d.Path (exchange :: asked) a := by
  cases d with
  | done => cases taken
  | ask query next =>
    cases query with
    | observe | tool | awaitTool | memory | stepEnded =>
      cases taken
      exact .ask later

variable [DecidableEq ι]

/-- Computations with one toolbox take turns as far as a plan says; each stands where it is with the
arguments of its last tool. -/
def planned (tools : Toolbox) :
    List ι → (ι → List (String × Value) × Dialogue α) → Store → Option (Schedule ι × Store)
  | [], _, store => some ([], store)
  | one :: plan, stands, store => do
    let (exchange, args, d, store) ← (stands one).2.turn? tools store (stands one).1
    let (turns, last) ← planned tools plan
      (fun other => if other = one then (args, d) else stands other) store
    return ((one, exchange) :: turns, last)

/-- Computations that take turns as planned go along paths of theirs, and the store serves them
all. -/
theorem planned_sound {tools : Toolbox} {plan : List ι}
    {stands : ι → List (String × Value) × Dialogue α} {store last : Store} {turns : Schedule ι}
    (taken : planned tools plan stands store = some (turns, last)) :
    (∀ one, ∃ rest a, (stands one).2.Path (turns.of one ++ rest) a) ∧
    Served store turns.all last := by
  induction plan generalizing stands store turns with
  | nil =>
    cases taken
    exact ⟨fun one => exists_path (stands one).2, .done _⟩
  | cons one plan ih =>
    obtain ⟨⟨exchange, args, d, store'⟩, turn, later⟩ := Option.bind_eq_some_iff.mp taken
    obtain ⟨⟨more, _⟩, planned, same⟩ := Option.bind_eq_some_iff.mp later
    cases same
    obtain ⟨paths, served⟩ := ih planned
    refine ⟨fun other => ?_, turn?_served turn served⟩
    obtain ⟨rest, a, path⟩ := paths other
    refine ⟨rest, a, ?_⟩
    by_cases own : one = other
    · subst own
      rw [if_pos rfl] at path
      have asked : Schedule.of ((one, exchange) :: more) one =
          exchange :: Schedule.of more one := by simp [Schedule.of]
      rw [asked]
      exact turn?_path turn path
    · rw [if_neg (Ne.symm own)] at path
      have asked : Schedule.of ((one, exchange) :: more) other = Schedule.of more other := by
        simp [Schedule.of, own]
      rw [asked]
      exact path

end Dialogue

namespace RunRequest

open Exchange

/-- Three runs that append to one key; two of them read it too. -/
def chorus : Fin 3 → RunRequest
  | 0 => patient "bot b on input remember \"k\" append 1 remember \"k\" append 2 end end"
  | 1 => patient "bot b on input remember \"k\" append \"x\" recall \"k\" as seen end end"
  | 2 => patient "bot b on input recall \"k\" as seen remember \"k\" append [3] end end"

/-- The three runs, question by question in turns, with a store that holds a text under the key. -/
def singing : Option (Schedule (Fin 3) × Store) :=
  Dialogue.planned ⟨fun _ _ => .hung, fun _ _ => .hung⟩ (List.replicate 11 [2, 1, 0]).flatten
    (fun one => ([], (chorus one).execute)) ⟨[("k", .text "old")]⟩

theorem singing_gathers : ∃ turns last, Share chorus ⟨[("k", .text "old")]⟩ turns last ∧
    (memoryCalls turns.all).map (fun call => (call.method, call.key)) =
      [("get", "k"), ("append", "k"), ("append", "k"), ("append", "k"), ("get", "k"),
        ("append", "k")] ∧
    (turns.appended "k").map (fun pair => (pair.1, pair.2.shown)) =
      [(1, "x"), (0, "1"), (2, "[3]"), (0, "2")] ∧
    (last.get "k").shown = "['old', 'x', 1, [3], 2]" ∧
    Schedule.Gathers "k" chorus ⟨[("k", .text "old")]⟩ turns last := by
  have checked : (singing.any fun (turns, last) =>
      decide ((memoryCalls turns.all).map (fun call => (call.method, call.key)) =
        [("get", "k"), ("append", "k"), ("append", "k"), ("append", "k"), ("get", "k"),
          ("append", "k")]) &&
      decide ((turns.appended "k").map (fun pair => (pair.1, pair.2.shown)) =
        [(1, "x"), (0, "1"), (2, "[3]"), (0, "2")]) &&
      decide ((last.get "k").shown = "['old', 'x', 1, [3], 2]")) = true := by decide +kernel
  cases taken : singing with
  | none =>
    rw [taken] at checked
    cases checked
  | some planned =>
    obtain ⟨turns, last⟩ := planned
    rw [taken] at checked
    simp only [Option.any_some, Bool.and_eq_true, decide_eq_true_eq] at checked
    obtain ⟨⟨calls, appended⟩, held⟩ := checked
    obtain ⟨runs, served⟩ := Dialogue.planned_sound taken
    have share : Share chorus ⟨[("k", .text "old")]⟩ turns last := ⟨runs, served⟩
    refine ⟨turns, last, share, calls, appended, held,
      share.gathers (fun value member => ?_) fun unappended => ?_⟩
    · have listed : ("set", "k") ∈ (memoryCalls turns.all).map fun call =>
          (call.method, call.key) :=
        List.mem_map.mpr ⟨.set "k" value, member, rfl⟩
      rw [calls] at listed
      revert listed
      decide
    · rw [unappended] at appended
      cases appended

end RunRequest

end BotScript
