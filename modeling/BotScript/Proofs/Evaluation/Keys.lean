import BotScript.Proofs.Evaluation.Bound
import BotScript.Proofs.Evaluation.Readable
import BotScript.Proofs.Host.Exchange
import BotScript.Run.Statement

/-! Values of variables and expressions. As long as no object among the variables has a key twice,
no object that an expression comes to has one either; nor do the answers of tools and the defaults
of declared variables. -/

namespace BotScript

/-- A result that, if there is one, is of a certain sort. -/
def Gives {ε α : Type} (sort : α → Prop) (result : Except ε α) : Prop :=
  ∀ a, result = .ok a → sort a

namespace Gives

variable {ε α β : Type} {sort : α → Prop}

theorem ok {a : α} (is : sort a) : Gives sort (.ok a : Except ε α) := by
  intro b same
  obtain rfl := Except.ok.inj same
  exact is

theorem error (failure : ε) : Gives sort (.error failure : Except ε α) :=
  nofun

theorem bind {result : Except ε β} {next : β → Except ε α}
    (later : ∀ b, result = .ok b → Gives sort (next b)) :
    Gives sort (result >>= next) := by
  cases result with
  | ok b => exact later b rfl
  | error failure => exact error failure

theorem mapError {δ : Type} {f : ε → δ} {result : Except ε α} (gives : Gives sort result) :
    Gives sort (result.mapError f) := by
  cases result with
  | ok a => exact ok (gives a rfl)
  | error failure => exact error _

end Gives

open Value (WellKeyed)

namespace Environment

variable {env : Environment} {name : String} {value : Value}

/-- No object among the variables has a key twice. -/
def WellKeyed (env : Environment) : Prop :=
  ∀ binding ∈ env.bindings, binding.2.WellKeyed

theorem WellKeyed.empty : empty.WellKeyed :=
  List.forall_mem_nil _

theorem WellKeyed.get (keyed : env.WellKeyed) (found : env.get? name = some value) :
    value.WellKeyed :=
  keyed _ (Entries.mem_of_get? found)

theorem WellKeyed.bind (keyed : env.WellKeyed) (given : value.WellKeyed) (name : String) :
    (env.bind name value).WellKeyed := by
  intro binding member
  rcases Entries.mem_put member with kept | rfl
  · exact keyed binding kept
  · exact given

theorem WellKeyed.restore {other : Environment} (keyed : other.WellKeyed) (saved : env.WellKeyed)
    (name : String) :
    (other.restore (env.save name)).WellKeyed := by
  unfold Environment.restore
  split
  · rename_i value found
    intro binding member
    rcases Entries.mem_put member with kept | rfl
    · exact keyed binding kept
    · exact saved.get found
  · exact fun binding member => keyed binding (Entries.mem_of_erase member)

theorem WellKeyed.bindAll {bindings : List (String × Datum)} {bound : Environment}
    (keyed : env.WellKeyed) (given : env.bindAll bindings = .ok bound) : bound.WellKeyed := by
  induction bindings generalizing env with
  | nil =>
    obtain rfl := Except.ok.inj given
    exact keyed
  | cons binding rest ih =>
    rw [Environment.bindAll] at given
    cases converted : binding.2.convert with
    | error obstacle =>
      rw [converted] at given
      cases given
    | ok value =>
      rw [converted] at given
      exact ih (keyed.bind (Datum.wellKeyed_convert converted) binding.1) given

theorem WellKeyed.bindValues {values : List (String × Value)} (keyed : env.WellKeyed)
    (given : ∀ pair ∈ values, pair.2.WellKeyed) : (env.bindValues values).WellKeyed := by
  induction values generalizing env with
  | nil => exact keyed
  | cons pair rest ih =>
    obtain ⟨first, others⟩ := List.forall_mem_cons.mp given
    exact ih (keyed.bind first pair.1) others

end Environment

/-! ## Expressions -/

theorem Value.property_wellKeyed {value : Value} (keyed : value.WellKeyed) (field label : String) :
    Gives WellKeyed (value.property field label) := by
  cases value with
  | object entries =>
    rw [property]
    split
    · rename_i found given
      exact .ok (keyed.entries.2 _ (Entries.mem_of_get? given))
    · exact .error _
  | array items =>
    rw [property]
    split
    · exact .ok (.flat trivial)
    split
    · split
      · exact .error _
      · split
        · rename_i item listed
          exact .ok (keyed.items item (List.mem_of_getElem? listed))
        · exact .error _
    · exact .error _
  | text s =>
    rw [property]
    split
    · exact .ok (.flat trivial)
    · exact .error _
  | null | boolean _ | integer _ | number _ => exact .error _

namespace Expr

variable {env : Environment} {named field : String → Prop} {e : Expr}

theorem readPath_wellKeyed {value : Value} (keyed : value.WellKeyed) (label : String)
    (path : List String) :
    Gives WellKeyed (readPath value label path) := by
  induction path generalizing value label with
  | nil => exact .ok keyed
  | cons name rest ih =>
    rw [readPath]
    exact .bind fun found given => ih (Value.property_wellKeyed keyed name label found given) _

theorem evalAll_wellKeyed {items : List Expr}
    (all : ∀ item ∈ items, Gives WellKeyed (eval env item)) :
    Gives (fun values => ∀ value ∈ values, value.WellKeyed) (evalAll env items) := by
  induction items with
  | nil => exact .ok (List.forall_mem_nil _)
  | cons item rest ih =>
    have others := ih fun other member => all other (List.mem_cons_of_mem _ member)
    rw [evalAll]
    refine .bind fun value given => .bind fun values more => .ok ?_
    exact List.forall_mem_cons.mpr ⟨all item List.mem_cons_self value given, others values more⟩

theorem evalEntries_wellKeyed {entries : List (String × Expr)}
    (all : ∀ entry ∈ entries, Gives WellKeyed (eval env entry.2)) :
    Gives (fun values => ∀ value ∈ values, value.2.WellKeyed) (evalEntries env entries) := by
  induction entries with
  | nil => exact .ok (List.forall_mem_nil _)
  | cons entry rest ih =>
    have others := ih fun other member => all other (List.mem_cons_of_mem _ member)
    rw [evalEntries]
    refine .bind fun value given => .bind fun values more => .ok ?_
    exact List.forall_mem_cons.mpr ⟨all entry List.mem_cons_self value given, others values more⟩

/-- No object that an expression comes to has a key twice when none among the variables has. -/
theorem Spelled.eval_wellKeyed (spelled : e.Spelled named field) (keyed : env.WellKeyed) :
    Gives WellKeyed (eval env e) := by
  induction spelled with
  | literal p flat =>
    rw [eval]
    exact .ok (.flat flat)
  | list all ih =>
    rw [eval]
    exact .bind fun values given => .ok (.array (evalAll_wellKeyed ih values given))
  | object all ih =>
    rw [eval]
    exact .bind fun values given => .ok (.ofList (evalEntries_wellKeyed ih values given))
  | reference p plain =>
    rw [eval]
    refine .mapError fun value found => ?_
    unfold Environment.resolve at found
    split at found
    · rename_i bound given
      obtain rfl := Except.ok.inj found
      exact keyed.get given
    · cases found
  | property inner fields ih =>
    rw [eval]
    exact .bind fun base given => readPath_wellKeyed (ih base given) _ _
  | template holes ih | concat holes ih =>
    rw [eval]
    exact .bind fun texts _ => .ok (.flat trivial)
  | contains first second ihFirst ihSecond =>
    rw [eval]
    exact .bind fun left _ => .bind fun right _ => .bind fun held _ => .ok (.flat trivial)
  | junction all ih =>
    rw [eval]
    exact .bind fun held _ => .ok (.flat trivial)
  | negation inner ih =>
    rw [eval]
    exact .bind fun value _ => .bind fun b _ => .ok (.flat trivial)
  | equals first second ihFirst ihSecond =>
    rw [eval]
    exact .bind fun left _ => .bind fun right _ => .ok (.flat trivial)
  | coalesce first second ihFirst ihSecond =>
    rw [eval]
    split
    · exact ihSecond
    · exact ihFirst

theorem Spelled.evaluate_wellKeyed (spelled : e.Spelled named field) (keyed : env.WellKeyed) :
    Gives WellKeyed (evaluate env e) :=
  .mapError (spelled.eval_wellKeyed keyed)

theorem evaluateEntries_wellKeyed {entries : List (String × Expr)}
    (spelled : ∀ entry ∈ entries, entry.2.Spelled named field) (keyed : env.WellKeyed) :
    Gives (fun values => ∀ value ∈ values, value.2.WellKeyed) (evaluateEntries env entries) := by
  induction entries with
  | nil => exact .ok (List.forall_mem_nil _)
  | cons entry rest ih =>
    obtain ⟨first, others⟩ := List.forall_mem_cons.mp spelled
    rw [evaluateEntries]
    refine .bind fun value given => .bind fun values more => .ok ?_
    exact List.forall_mem_cons.mpr ⟨first.evaluate_wellKeyed keyed value given,
      ih others values more⟩

end Expr

theorem Value.loopItems_wellKeyed {value : Value} (keyed : value.WellKeyed) :
    Gives (fun items => ∀ item ∈ items, item.WellKeyed) value.loopItems := by
  cases value with
  | array items => exact .ok keyed.items
  | null | boolean _ | integer _ | number _ | text _ | object _ => exact .error _

/-! ## Tools and declared variables -/

namespace ToolResult

/-- No object in the data of an answer has a key twice. -/
def WellKeyed (result : ToolResult) : Prop :=
  ∀ entries, result.data = some entries → Value.WellKeyed (.object entries)

theorem dataObject_wellKeyed (datum : Datum) :
    Gives (fun data => ∀ entries, data = some entries → Value.WellKeyed (.object entries))
      (dataObject datum) := by
  unfold dataObject
  split
  · exact .ok nofun
  · refine .bind fun value converted => ?_
    have keyed := Datum.wellKeyed_convert converted
    split
    · refine .ok fun taken same => ?_
      obtain rfl := Option.some.inj same
      exact keyed
    · refine .ok fun taken same => ?_
      obtain rfl := Option.some.inj same
      exact .object (by simp [Entries.Distinct]) (List.forall_mem_singleton.mpr keyed)

theorem ofDatum_wellKeyed (tool : String) (raw : Datum) : Gives WellKeyed (ofDatum tool raw) := by
  unfold ofDatum
  split
  · exact .error _
  · exact .mapError (.bind fun output _ => .bind fun data given =>
      .ok (dataObject_wellKeyed _ data given))
  · exact .error _

/-- An answer as programs read it has no key twice. -/
theorem value_wellKeyed {result : ToolResult} (keyed : result.WellKeyed) :
    result.value.WellKeyed := by
  have known : Entries.Distinct (result.data.getD []) ∧
      ∀ entry ∈ result.data.getD [], entry.2.WellKeyed := by
    cases given : result.data with
    | none => exact ⟨by simp [Entries.Distinct], List.forall_mem_nil _⟩
    | some entries => exact (keyed entries given).entries
  have data : result.dataValue.WellKeyed := by
    unfold dataValue
    split
    · exact .flat trivial
    · rename_i entries given
      exact keyed entries given
  refine .object (known.1.putAll _) fun entry member => ?_
  rcases Entries.mem_putAll member with first | added
  · exact known.2 entry first
  · simp only [List.mem_cons, List.not_mem_nil, or_false] at added
    rcases added with rfl | rfl | rfl
    · exact .flat trivial
    · exact .flat trivial
    · exact data

end ToolResult

theorem ToolCall.conclude_wellKeyed (call : ToolCall) (work : Except HostError Datum) :
    Gives ToolResult.WellKeyed (call.conclude work).result := by
  unfold conclude
  split
  · exact .error _
  · exact .error _
  · rename_i result given
    split
    · refine .ok ?_
      have gives : Gives ToolResult.WellKeyed (work.bind (ToolResult.ofDatum call.name)) :=
        .bind fun datum _ => ToolResult.ofDatum_wellKeyed call.name datum
      exact gives result given
    · exact .error _

/-- What an assistant gets has no key twice when the options of the prompt have none. -/
theorem Run.promptArgs_wellKeyed (setup : Setup) (prompt : String) {options : List (String × Value)}
    (keyed : WellKeyed (.object options)) :
    WellKeyed (.object (promptArgs setup prompt options)) := by
  obtain ⟨-, all⟩ := keyed.entries
  have model : (modelOf setup options).WellKeyed := by
    have default (name : Option String) : (Value.ofText? name).WellKeyed := by
      cases name <;> exact .flat trivial
    unfold modelOf
    split
    · rename_i value given
      split
      · exact default _
      · exact all _ (Entries.mem_of_get? given)
    · exact default _
  have opening : WellKeyed (.object [("prompt", .text prompt)]) :=
    .object (by simp [Entries.Distinct]) (List.forall_mem_singleton.mpr (.flat trivial))
  have args : WellKeyed (.object
      (Entries.putAll [("prompt", .text prompt)] (Entries.erase options "model"))) :=
    opening.putAll fun entry member => all entry (Entries.mem_of_erase member)
  have asked (value : Value) (given : value.WellKeyed) {args : List (String × Value)}
      (sound : WellKeyed (.object args)) :
      WellKeyed (.object (if value.isNull then args else Entries.put args "model" value)) := by
    split
    · exact sound
    · exact sound.put "model" given
  unfold promptArgs
  dsimp only
  split
  · exact asked _ model args
  · split
    · exact asked _ model args
    · exact (asked _ model args).put "system" (.flat trivial)

/-! ## The memory -/

/-- No object that is written has a key twice. -/
def MemoryCall.WellKeyed : MemoryCall → Prop
  | .get _ => True
  | .set _ value | .append _ value => value.WellKeyed

/-- The default of a declared variable has no parts or none in it. -/
theorem Slot.defaultValue_wellKeyed (typeName : String) :
    (Slot.defaultValue typeName).WellKeyed := by
  unfold defaultValue
  dsimp only
  repeat' split
  all_goals
    first
    | exact .flat trivial
    | exact .array (List.forall_mem_nil _)
    | exact .object List.nodup_nil (List.forall_mem_nil _)

namespace MemoryAccess

open Dialogue

variable {access : MemoryAccess} {asked : List Exchange}

theorem read_wellKeyed {key : String} {given : Except Stop Value}
    (path : Path (access.read key) asked given) :
    Gives WellKeyed given := by
  obtain ⟨answer, front, back, -, rest, -⟩ := path_bind_iff.mp path
  cases answer with
  | error fault =>
    obtain ⟨-, rfl⟩ := path_pure_iff.mp rest
    exact .error _
  | ok datum =>
    obtain ⟨-, rfl⟩ := path_pure_iff.mp rest
    exact .mapError fun value converted => Datum.wellKeyed_convert converted

theorem orDefault_wellKeyed (slot : Slot) {value : Value} (keyed : value.WellKeyed) :
    (orDefault slot value).WellKeyed := by
  unfold orDefault
  split
  · exact Slot.defaultValue_wellKeyed slot.typeName
  · exact keyed

theorem hydrate_wellKeyed {slots : List (String × Slot)}
    {given : Except Stop (List (String × Value))} (path : Path (access.hydrate slots) asked given) :
    Gives (fun values => ∀ pair ∈ values, pair.2.WellKeyed) given := by
  induction slots generalizing asked given with
  | nil =>
    obtain ⟨-, rfl⟩ := path_pure_iff.mp path
    exact .ok (List.forall_mem_nil _)
  | cons slot rest ih =>
    obtain ⟨answer, front, back, first, later, -⟩ := path_bind_iff.mp path
    cases answer with
    | error stop =>
      obtain ⟨-, rfl⟩ := path_pure_iff.mp later
      exact .error _
    | ok value =>
      obtain ⟨others, middle, last, more, ended, -⟩ := path_bind_iff.mp later
      cases others with
      | error stop =>
        obtain ⟨-, rfl⟩ := path_pure_iff.mp ended
        exact .error _
      | ok values =>
        obtain ⟨-, rfl⟩ := path_pure_iff.mp ended
        have keyed := read_wellKeyed first value rfl
        exact .ok (List.forall_mem_cons.mpr ⟨orDefault_wellKeyed slot.2 keyed, ih more values rfl⟩)

end MemoryAccess

end BotScript
