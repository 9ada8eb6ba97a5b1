import BotScript.Proofs.Evaluation.Unbound

/-! What evaluations fail for. An expression misses a variable or a field, or has a value of the
wrong type where another is needed; it never fails for a tool, the memory or a limit. -/

namespace BotScript

namespace ErrorKind

/-- The classes of failures that evaluations have. -/
def isOfEvaluation : ErrorKind → Bool
  | unbound | property | type => true
  | _ => false

end ErrorKind

/-- The failure is of a class that no evaluation has. -/
def Trouble.IsForeign : Trouble → Prop
  | cause facts => ¬facts.kind.isOfEvaluation
  | numeral _ => False

/-- A part of a run stops for what no evaluation fails for. -/
def Stop.IsForeign (stop : Stop) : Prop :=
  ∃ cause, stop.cause? = some cause ∧ ¬cause.kind.isOfEvaluation

theorem not_foreign {cause : Cause} (kind : cause.kind.isOfEvaluation) :
    ¬(Trouble.cause cause).IsForeign :=
  not_not_intro kind

namespace Value

theorem property_native (value : Value) (field label : String) :
    Avoids Trouble.IsForeign (value.property field label) := by
  intro failure failed foreign
  unfold property at failed
  repeat' split at failed
  all_goals cases failed
  all_goals exact absurd foreign (by simp [Trouble.IsForeign, Cause.kind, ErrorKind.isOfEvaluation])

theorem asBoolean_native (value : Value) (context : String) :
    Avoids Trouble.IsForeign ((value.asBoolean context).mapError .cause) := by
  intro failure failed foreign
  cases value <;> cases failed <;> exact absurd foreign (not_foreign rfl)

theorem contains_native (value needle : Value) :
    Avoids Trouble.IsForeign ((value.contains needle).mapError .cause) := by
  intro failure failed foreign
  unfold contains at failed
  repeat' split at failed
  all_goals cases failed
  all_goals exact absurd foreign (not_foreign rfl)

end Value

namespace Environment

theorem resolve_native (env : Environment) (name : String) :
    Avoids Trouble.IsForeign ((env.resolve name).mapError .cause) := by
  intro failure failed foreign
  unfold resolve at failed
  split at failed
  · cases failed
  · obtain rfl := Except.error.inj failed
    exact absurd foreign (not_foreign rfl)

end Environment

namespace Expr

variable (env : Environment)

mutual

/-- Every failure of an evaluation is of one of these classes, whatever the expression is. -/
theorem eval_native (e : Expr) : Avoids Trouble.IsForeign (eval env e) := by
  match e with
  | .literal value p =>
    rw [eval]
    exact .ok value
  | .list items p =>
    rw [eval]
    exact (evalAll_native items).bind fun values _ => .ok _
  | .object entries p =>
    rw [eval]
    exact (evalEntries_native entries).bind fun values _ => .ok _
  | .reference name p =>
    rw [eval]
    exact env.resolve_native name
  | .property base path p =>
    rw [eval]
    exact (eval_native base).bind fun value _ =>
      readPath_avoids (fun field _ value label => value.property_native field label) value _
  | .template segments p =>
    rw [eval]
    exact (evalSegments_native segments).bind fun texts _ => .ok _
  | .contains left right p =>
    rw [eval]
    refine (eval_native left).bind fun value _ => (eval_native right).bind fun needle _ => ?_
    exact (value.contains_native needle).bind fun held _ => .ok _
  | .junction connective operands p =>
    rw [eval]
    exact (evalJunction_native connective operands).bind fun held _ => .ok _
  | .negation operand p =>
    rw [eval]
    exact (eval_native operand).bind fun value _ => (value.asBoolean_native _).bind fun b _ => .ok _
  | .equals left right negated p =>
    rw [eval]
    exact (eval_native left).bind fun value _ => (eval_native right).bind fun other _ => .ok _
  | .concat parts p =>
    rw [eval]
    exact (evalShown_native parts).bind fun texts _ => .ok _
  | .coalesce left right p =>
    rw [eval]
    split
    · exact eval_native right
    · exact eval_native left

theorem evalAll_native (items : List Expr) : Avoids Trouble.IsForeign (evalAll env items) := by
  match items with
  | [] =>
    rw [evalAll]
    exact .ok []
  | item :: rest =>
    rw [evalAll]
    exact (eval_native item).bind fun value _ => (evalAll_native rest).bind fun values _ => .ok _

theorem evalEntries_native (entries : List (String × Expr)) :
    Avoids Trouble.IsForeign (evalEntries env entries) := by
  match entries with
  | [] =>
    rw [evalEntries]
    exact .ok []
  | (key, item) :: rest =>
    rw [evalEntries]
    exact (eval_native item).bind fun value _ =>
      (evalEntries_native rest).bind fun values _ => .ok _

theorem evalShown_native (parts : List Expr) : Avoids Trouble.IsForeign (evalShown env parts) := by
  match parts with
  | [] =>
    rw [evalShown]
    exact .ok []
  | part :: rest =>
    rw [evalShown]
    exact (eval_native part).bind fun value _ => (evalShown_native rest).bind fun texts _ => .ok _

theorem evalSegments_native (segments : List Segment) :
    Avoids Trouble.IsForeign (evalSegments env segments) := by
  match segments with
  | [] =>
    rw [evalSegments]
    exact .ok []
  | .text s :: rest =>
    rw [evalSegments]
    exact (evalSegments_native rest).bind fun texts _ => .ok _
  | .hole hole :: rest =>
    rw [evalSegments]
    exact (eval_native hole).bind fun value _ =>
      (evalSegments_native rest).bind fun texts _ => .ok _

theorem evalJunction_native (connective : Junction) (operands : List Expr) :
    Avoids Trouble.IsForeign (evalJunction env connective operands) := by
  match operands with
  | [] =>
    rw [evalJunction]
    exact .ok _
  | operand :: rest =>
    rw [evalJunction]
    refine (eval_native operand).bind fun value _ => (value.asBoolean_native _).bind fun b _ => ?_
    split
    · exact .ok _
    · exact evalJunction_native connective rest

end

/-- So it is for what stops a run. -/
theorem evaluate_native (e : Expr) : Avoids Stop.IsForeign (evaluate env e) := by
  rintro stop failed ⟨cause, same, other⟩
  unfold evaluate at failed
  cases given : eval env e with
  | ok value =>
    rw [given] at failed
    cases failed
  | error trouble =>
    rw [given] at failed
    obtain rfl := Except.error.inj failed
    cases trouble with
    | cause facts =>
      obtain rfl : facts = cause := Option.some.inj same
      exact eval_native env e _ given other
    | numeral _ => cases same

theorem render_native (e : Expr) : Avoids Stop.IsForeign (render env e) :=
  (evaluate_native env e).bind fun value _ => .ok value.shown

theorem condition_native (e : Expr) (context : String) :
    Avoids Stop.IsForeign (condition env e context) := by
  refine (evaluate_native env e).bind fun value _ => ?_
  rintro stop failed ⟨cause, same, other⟩
  cases value <;> cases failed <;> obtain rfl := Option.some.inj same <;> exact absurd rfl other

theorem evaluateEntries_native (entries : List (String × Expr)) :
    Avoids Stop.IsForeign (evaluateEntries env entries) := by
  induction entries with
  | nil => exact .ok []
  | cons entry rest ih =>
    rw [evaluateEntries]
    exact (evaluate_native env entry.2).bind fun value _ => ih.bind fun values _ => .ok _

end Expr

end BotScript
