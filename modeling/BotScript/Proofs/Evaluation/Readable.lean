import BotScript.Evaluation.Expr
import BotScript.Proofs.Datum.RoundTrip

/-! Expressions whose indexes are numbers. The only failure of an expression that no result reports
is an index whose digits give no number; an expression without such indexes has a value in every
environment, or fails for a cause that results report. -/

namespace BotScript

/-- A result that is no failure of a certain sort. -/
def Avoids {ε α : Type} (sort : ε → Prop) (result : Except ε α) : Prop :=
  ∀ failure, result = .error failure → ¬ sort failure

namespace Avoids

variable {ε α β : Type} {sort : ε → Prop}

@[simp] theorem ok (a : α) : Avoids sort (.ok a) :=
  nofun

theorem error {failure : ε} (other : ¬ sort failure) :
    Avoids sort (.error failure : Except ε α) := by
  intro again same
  obtain rfl := Except.error.inj same
  exact other

/-- A result is also no failure of a narrower sort. -/
theorem mono {narrow : ε → Prop} {result : Except ε α} (avoids : Avoids sort result)
    (implies : ∀ failure, narrow failure → sort failure) : Avoids narrow result :=
  fun failure same narrow => avoids failure same (implies failure narrow)

/-- One computation after the other. -/
theorem bind {result : Except ε α} {next : α → Except ε β} (first : Avoids sort result)
    (later : ∀ a, result = .ok a → Avoids sort (next a)) : Avoids sort (result >>= next) := by
  cases result with
  | ok a => exact later a rfl
  | error failure => exact error (first failure rfl)

theorem mapError {δ : Type} {f : δ → ε} (others : ∀ failure, ¬ sort (f failure))
    (result : Except δ α) :
    Avoids sort (result.mapError f) := by
  cases result with
  | ok a => exact ok a
  | error failure => exact error (others failure)

end Avoids

/-- A failure that no result reports: a numeral without a number. -/
def Trouble.Unreported : Trouble → Prop
  | cause _ => False
  | numeral _ => True

/-- A stop that no result reports. -/
def Stop.Unreported : Stop → Prop
  | fault _ => False
  | escape _ => True

/-- An evaluation that fails at most for a cause that results report. -/
abbrev Reportable {α : Type} (result : Except Trouble α) : Prop :=
  Avoids Trouble.Unreported result

/-- What stops a run at most with a failure that results report. -/
abbrev Reported {α : Type} (result : Except Stop α) : Prop :=
  Avoids Stop.Unreported result

theorem reportable_cause {α : Type} (cause : Cause) :
    Reportable (.error (.cause cause) : Except Trouble α) :=
  .error id

theorem reportable_mapError {α : Type} (result : Except Cause α) :
    Reportable (result.mapError Trouble.cause) :=
  .mapError (fun _ => id) result

/-- The name of a field can be read: if it is an index, its digits are a number. -/
def Value.FieldReads (field : String) : Prop :=
  isIndex field → ∃ n, Number.readInt field.toList = .ok n

theorem Value.property_reportable {field : String} (reads : FieldReads field) (value : Value)
    (label : String) :
    Reportable (value.property field label) := by
  cases value with
  | array items =>
    rw [property]
    split
    · exact .ok _
    split
    · rename_i index
      obtain ⟨n, read⟩ := reads index
      rw [read]
      dsimp only
      split
      · exact .ok _
      · exact reportable_cause _
    · exact reportable_cause _
  | object entries =>
    rw [property]
    split
    · exact .ok _
    · exact reportable_cause _
  | text s =>
    rw [property]
    split
    · exact .ok _
    · exact reportable_cause _
  | null | boolean _ | integer _ | number _ => exact reportable_cause _

namespace Expr

/-- An expression as programs write them: literals have no parts, and all variables and all fields
have names of some sorts. -/
inductive Spelled (named field : String → Prop) : Expr → Prop
  | literal {value : Value} (p : Position)
      (flat : value.IsFlat) : Spelled named field (.literal value p)
  | list {items : List Expr} {p : Position} (all : ∀ item ∈ items, Spelled named field item) :
      Spelled named field (.list items p)
  | object {entries : List (String × Expr)} {p : Position}
      (all : ∀ entry ∈ entries, Spelled named field entry.2) :
      Spelled named field (.object entries p)
  | reference {name : String} (p : Position)
      (plain : named name) : Spelled named field (.reference name p)
  | property {base : Expr} {path : List String} {p : Position} (inner : Spelled named field base)
      (fields : ∀ name ∈ path, field name) : Spelled named field (.property base path p)
  | template {segments : List Segment} {p : Position}
      (holes : ∀ expr, .hole expr ∈ segments → Spelled named field expr) :
      Spelled named field (.template segments p)
  | contains {left right : Expr} {p : Position} (first : Spelled named field left)
      (second : Spelled named field right) :
      Spelled named field (.contains left right p)
  | junction {connective : Junction} {operands : List Expr} {p : Position}
      (all : ∀ operand ∈ operands, Spelled named field operand) :
      Spelled named field (.junction connective operands p)
  | negation {operand : Expr} {p : Position} (inner : Spelled named field operand) :
      Spelled named field (.negation operand p)
  | equals {left right : Expr} {negated : Bool} {p : Position} (first : Spelled named field left)
      (second : Spelled named field right) : Spelled named field (.equals left right negated p)
  | concat {parts : List Expr} {p : Position} (all : ∀ part ∈ parts, Spelled named field part) :
      Spelled named field (.concat parts p)
  | coalesce {left right : Expr} {p : Position} (first : Spelled named field left)
      (second : Spelled named field right) :
      Spelled named field (.coalesce left right p)

/-- All fields in an expression can be read. -/
abbrev Readable : Expr → Prop :=
  Spelled (fun _ => True) Value.FieldReads

variable {env : Environment} {sort : Trouble → Prop}

theorem readPath_avoids {path : List String}
    (fields : ∀ field ∈ path, ∀ (value : Value) (label : String),
      Avoids sort (value.property field label))
    (value : Value) (label : String) : Avoids sort (readPath value label path) := by
  induction path generalizing value label with
  | nil => exact .ok value
  | cons field rest ih =>
    have first := fields field List.mem_cons_self value label
    exact first.bind fun found _ =>
      ih (fun other member => fields other (List.mem_cons_of_mem _ member)) found _

theorem evalAll_avoids {items : List Expr} (all : ∀ item ∈ items, Avoids sort (eval env item)) :
    Avoids sort (evalAll env items) := by
  induction items with
  | nil => simp [evalAll]
  | cons item rest ih =>
    rw [evalAll]
    refine (all item List.mem_cons_self).bind fun value _ => ?_
    exact (ih fun other member => all other (List.mem_cons_of_mem _ member)).bind
      fun values _ => .ok _

theorem evalEntries_avoids {entries : List (String × Expr)}
    (all : ∀ entry ∈ entries, Avoids sort (eval env entry.2)) :
    Avoids sort (evalEntries env entries) := by
  induction entries with
  | nil => simp [evalEntries]
  | cons entry rest ih =>
    rw [evalEntries]
    refine (all entry List.mem_cons_self).bind fun value _ => ?_
    exact (ih fun other member => all other (List.mem_cons_of_mem _ member)).bind
      fun values _ => .ok _

theorem evalShown_avoids {parts : List Expr} (all : ∀ part ∈ parts, Avoids sort (eval env part)) :
    Avoids sort (evalShown env parts) := by
  induction parts with
  | nil => simp [evalShown]
  | cons part rest ih =>
    rw [evalShown]
    refine (all part List.mem_cons_self).bind fun value _ => ?_
    exact (ih fun other member => all other (List.mem_cons_of_mem _ member)).bind
      fun texts _ => .ok _

theorem evalSegments_avoids {segments : List Segment}
    (holes : ∀ expr, .hole expr ∈ segments → Avoids sort (eval env expr)) :
    Avoids sort (evalSegments env segments) := by
  induction segments with
  | nil => simp [evalSegments]
  | cons segment rest ih =>
    have later := ih fun other member => holes other (List.mem_cons_of_mem _ member)
    cases segment with
    | text s =>
      rw [evalSegments]
      exact later.bind fun texts _ => .ok _
    | hole expr =>
      rw [evalSegments]
      refine (holes expr List.mem_cons_self).bind fun value _ => ?_
      exact later.bind fun texts _ => .ok _

theorem evalJunction_avoids {connective : Junction} {operands : List Expr}
    (all : ∀ operand ∈ operands, Avoids sort (eval env operand))
    (booleans : ∀ (value : Value) (context : String),
      Avoids sort ((value.asBoolean context).mapError .cause)) :
    Avoids sort (evalJunction env connective operands) := by
  induction operands with
  | nil => simp [evalJunction]
  | cons operand rest ih =>
    rw [evalJunction]
    refine (all operand List.mem_cons_self).bind fun value _ => ?_
    refine (booleans _ _).bind fun b _ => ?_
    split
    · exact .ok _
    · exact ih fun other member => all other (List.mem_cons_of_mem _ member)

/-- An expression whose fields can be read fails at most for a cause that results report. -/
theorem Readable.eval_reportable {e : Expr} (readable : e.Readable) (env : Environment) :
    Reportable (eval env e) := by
  induction readable with
  | literal p flat => simp [eval]
  | list all ih =>
    rw [eval]
    exact (evalAll_avoids ih).bind fun values _ => .ok _
  | object all ih =>
    rw [eval]
    exact (evalEntries_avoids ih).bind fun values _ => .ok _
  | reference p plain =>
    rw [eval]
    exact reportable_mapError _
  | property inner fields ih =>
    rw [eval]
    exact ih.bind fun base _ =>
      readPath_avoids (fun field member => Value.property_reportable (fields field member)) base _
  | template holes ih =>
    rw [eval]
    exact (evalSegments_avoids ih).bind fun texts _ => .ok _
  | contains first second ihFirst ihSecond =>
    rw [eval]
    refine ihFirst.bind fun left _ => ihSecond.bind fun right _ => ?_
    exact (reportable_mapError _).bind fun held _ => .ok _
  | junction all ih =>
    rw [eval]
    exact (evalJunction_avoids ih fun _ _ => reportable_mapError _).bind fun held _ => .ok _
  | negation inner ih =>
    rw [eval]
    exact ih.bind fun value _ => (reportable_mapError _).bind fun b _ => .ok _
  | equals first second ihFirst ihSecond =>
    rw [eval]
    exact ihFirst.bind fun left _ => ihSecond.bind fun right _ => .ok _
  | concat all ih =>
    rw [eval]
    exact (evalShown_avoids ih).bind fun texts _ => .ok _
  | coalesce first second ihFirst ihSecond =>
    rw [eval]
    split
    · exact ihSecond
    · exact ihFirst

/-! ## Evaluations in a run -/

theorem reported_locate {α : Type} {result : Except Trouble α} (reportable : Reportable result)
    (p : Position) :
    Reported (result.mapError (Trouble.locate p)) := by
  match result with
  | .ok a => exact .ok a
  | .error (.cause cause) => exact .error id
  | .error (.numeral numeral) => exact absurd trivial (reportable _ rfl)

theorem Readable.evaluate_reported {e : Expr} (readable : e.Readable) : Reported (evaluate env e) :=
  reported_locate (readable.eval_reportable env) e.position

theorem Readable.render_reported {e : Expr} (readable : e.Readable) : Reported (render env e) :=
  readable.evaluate_reported.bind fun _ _ => .ok _

theorem Readable.condition_reported {e : Expr} (readable : e.Readable) (context : String) :
    Reported (condition env e context) :=
  readable.evaluate_reported.bind fun _ _ => .mapError (fun _ => id) _

theorem evaluateEntries_reported {entries : List (String × Expr)}
    (all : ∀ entry ∈ entries, entry.2.Readable) :
    Reported (evaluateEntries env entries) := by
  induction entries with
  | nil => exact .ok []
  | cons entry rest ih =>
    rw [evaluateEntries]
    refine (all entry List.mem_cons_self).evaluate_reported.bind fun value _ => ?_
    exact (ih fun other member => all other (List.mem_cons_of_mem _ member)).bind
      fun values _ => .ok _

end Expr

end BotScript
