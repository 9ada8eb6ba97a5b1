import BotScript.Evaluation.Expr
import BotScript.Syntax.Expr.Reader

/-! Chains of one operator. What `or`, `and`, `+` and `??` make of the results of two operands is
associative, failures included, and a chain without brackets folds it over the results of all its
operands. So brackets in a chain do not matter. -/

namespace BotScript

open BotScript.Expr (decisive isReplaced operandContext)

/-- The operators that join any number of operands. -/
inductive Operator
  | junction (connective : Junction)
  | concat
  | coalesce

namespace Operator

/-- Operands with the operator between them and no brackets. -/
def join : Operator → List Expr → Position → Expr
  | junction connective => .junction connective
  | concat => .concat
  | coalesce => Reading.coalesceAll

/-- The boolean that an operand of a connective comes to. -/
def decided (connective : Junction) (result : Except Trouble Value) : Except Trouble Bool := do
  let value ← result
  (value.asBoolean (operandContext connective.word)).mapError .cause

/-- What an operator makes of two results. The second one does not count where the first one decides
or fails. -/
def apply : Operator → Except Trouble Value → Except Trouble Value → Except Trouble Value
  | junction connective, left, right =>
    match decided connective left with
    | .error trouble => .error trouble
    | .ok b =>
      if b = decisive connective then .ok (.boolean b) else (decided connective right).map .boolean
  | concat, left, right => do
    let front ← left
    let back ← right
    return .text (front.shown ++ back.shown)
  | coalesce, left, right => if isReplaced left then right else left

/-- What an operator makes of the results of a chain, from the left on. -/
def fold (op : Operator) : List (Except Trouble Value) → Except Trouble Value
  | [] => .ok .null
  | first :: others => others.foldl op.apply first

/-! ## Brackets around results -/

section

variable {connective : Junction} {left right : Except Trouble Value} {b : Bool} {trouble : Trouble}

theorem junction_fails (fails : decided connective left = .error trouble)
    (right : Except Trouble Value) :
    (junction connective).apply left right = .error trouble := by
  unfold apply
  dsimp only
  rw [fails]

theorem junction_stops (ends : decided connective left = .ok (decisive connective))
    (right : Except Trouble Value) :
    (junction connective).apply left right = .ok (.boolean (decisive connective)) := by
  unfold apply
  dsimp only
  rw [ends]
  exact if_pos rfl

theorem junction_passes (passes : decided connective left = .ok b) (other : b ≠ decisive connective)
    (right : Except Trouble Value) :
    (junction connective).apply left right = (decided connective right).map .boolean := by
  unfold apply
  dsimp only
  rw [passes]
  exact if_neg other

/-- A result that is decided already is decided the same again. -/
theorem decided_again (connective : Junction) (result : Except Trouble Bool) :
    decided connective (result.map .boolean) = result := by
  cases result <;> rfl

theorem junction_assoc (connective : Junction) (a b c : Except Trouble Value) :
    (junction connective).apply ((junction connective).apply a b) c =
      (junction connective).apply a ((junction connective).apply b c) := by
  cases first : decided connective a with
  | error trouble => rw [junction_fails first, junction_fails first, junction_fails rfl]
  | ok x =>
    by_cases stops : x = decisive connective
    · subst stops
      rw [junction_stops first, junction_stops first, junction_stops rfl]
    · rw [junction_passes first stops, junction_passes first stops]
      -- What `a` lets pass is decided between `b` and `c`, where `b` is decided for the second
      -- time.
      have again := decided_again connective (decided connective b)
      cases second : decided connective b with
      | error trouble =>
        rw [second] at again
        rw [junction_fails again, junction_fails second]
        rfl
      | ok y =>
        rw [second] at again
        by_cases ends : y = decisive connective
        · subst ends
          rw [junction_stops again, junction_stops second]
          rfl
        · rw [junction_passes again ends, junction_passes second ends, decided_again]

theorem concat_assoc (a b c : Except Trouble Value) :
    concat.apply (concat.apply a b) c = concat.apply a (concat.apply b c) := by
  cases a with
  | error trouble => rfl
  | ok x =>
    cases b with
    | error trouble => rfl
    | ok y =>
      cases c with
      | error trouble => rfl
      | ok z => exact congrArg (fun s => Except.ok (Value.text s)) String.append_assoc

theorem coalesce_assoc (a b c : Except Trouble Value) :
    coalesce.apply (coalesce.apply a b) c = coalesce.apply a (coalesce.apply b c) := by
  unfold apply
  dsimp only
  by_cases replaced : isReplaced a
  · rw [if_pos replaced, if_pos replaced]
  · rw [if_neg replaced, if_neg replaced, if_neg replaced]

end

variable {op : Operator} {env : Environment} {operands others parts : List Expr} {e other : Expr}
  {results : List (Except Trouble Value)}

/-- Brackets around two of three results do not matter. -/
theorem apply_assoc (op : Operator) (a b c : Except Trouble Value) :
    op.apply (op.apply a b) c = op.apply a (op.apply b c) := by
  cases op with
  | junction connective => exact junction_assoc connective a b c
  | concat => exact concat_assoc a b c
  | coalesce => exact coalesce_assoc a b c

instance (op : Operator) : Std.Associative op.apply :=
  ⟨op.apply_assoc⟩

/-- Results in front of a chain are joined with what the chain comes to. -/
theorem foldl_apply (first : Except Trouble Value) (nonempty : results ≠ []) :
    results.foldl op.apply first = op.apply first (op.fold results) := by
  obtain ⟨second, others, rfl⟩ := List.exists_cons_of_ne_nil nonempty
  exact List.foldl_assoc

theorem fold_append (nonempty : results ≠ []) (more : List (Except Trouble Value)) :
    op.fold (results ++ more) = more.foldl op.apply (op.fold results) := by
  obtain ⟨first, others, rfl⟩ := List.exists_cons_of_ne_nil nonempty
  exact List.foldl_append

/-! ## Chains without brackets -/

/-- A node with a list of operands is the fold of its operator, if it takes its first operand by the
operator and the last one counts there as if it stood alone. -/
theorem fold_of_node {node : List Expr → Except Trouble Value}
    (first : ∀ e parts, node (e :: parts) = op.apply (e.eval env) (node parts))
    (last : ∀ left e, op.apply left (node [e]) = op.apply left (e.eval env))
    (several : 2 ≤ parts.length) :
    node parts = op.fold (parts.map (Expr.eval env)) := by
  induction parts with
  | nil => cases several
  | cons e parts ih =>
    have more : parts ≠ [] := by
      rintro rfl
      exact Nat.not_succ_le_self 1 several
    rw [first, List.map_cons, fold, foldl_apply _ (by simpa using more)]
    match parts with
    | [single] => exact last _ single
    | _ :: _ :: _ => rw [ih (by simp)]

theorem eval_concat_cons (env : Environment) (p : Position) (e : Expr) (parts : List Expr) :
    (Expr.concat (e :: parts) p).eval env =
      concat.apply (e.eval env) ((Expr.concat parts p).eval env) := by
  unfold apply
  simp only [Expr.eval, Expr.evalShown]
  cases e.eval env with
  | error trouble => rfl
  | ok value =>
    cases Expr.evalShown env parts with
    | error trouble => rfl
    | ok texts => exact congrArg (fun s => Except.ok (Value.text s)) String.join_cons

theorem evalJunction_cons (env : Environment) (connective : Junction) (e : Expr)
    (parts : List Expr) :
    Expr.evalJunction env connective (e :: parts) = (do
      let b ← decided connective (e.eval env)
      if b = decisive connective then return b else Expr.evalJunction env connective parts) := by
  rw [Expr.evalJunction, decided, bind_assoc]

theorem eval_junction (env : Environment) (connective : Junction) (p : Position)
    (parts : List Expr) :
    (Expr.junction connective parts p).eval env =
      (Expr.evalJunction env connective parts).map .boolean := by
  rw [Expr.eval]
  cases Expr.evalJunction env connective parts <;> rfl

theorem eval_junction_cons (env : Environment) (connective : Junction) (p : Position) (e : Expr)
    (parts : List Expr) :
    (Expr.junction connective (e :: parts) p).eval env =
      (junction connective).apply (e.eval env) ((Expr.junction connective parts p).eval env) := by
  rw [eval_junction, eval_junction, evalJunction_cons]
  cases first : decided connective (e.eval env) with
  | error trouble =>
    rw [junction_fails first]
    rfl
  | ok b =>
    by_cases stops : b = decisive connective
    · subst stops
      rw [junction_stops first]
      exact congrArg (Except.map Value.boolean) (if_pos rfl)
    · rw [junction_passes first stops, decided_again]
      exact congrArg (Except.map Value.boolean) (if_neg stops)

/-- The last part of a concatenation counts as the text that it is shown as. -/
theorem concat_last (env : Environment) (p : Position) (left : Except Trouble Value) (e : Expr) :
    concat.apply left ((Expr.concat [e] p).eval env) = concat.apply left (e.eval env) := by
  rw [eval_concat_cons]
  unfold apply
  dsimp only
  cases left with
  | error trouble => rfl
  | ok front =>
    cases e.eval env with
    | error trouble => rfl
    | ok value =>
      exact congrArg (fun s => Except.ok (Value.text (front.shown ++ s))) String.append_empty

/-- The last operand of a connective counts as the boolean that it is. -/
theorem junction_last (env : Environment) (connective : Junction) (p : Position)
    (left : Except Trouble Value) (e : Expr) :
    (junction connective).apply left ((Expr.junction connective [e] p).eval env) =
      (junction connective).apply left (e.eval env) := by
  have same : decided connective ((Expr.junction connective [e] p).eval env) =
      decided connective (e.eval env) := by
    rw [eval_junction, decided_again, evalJunction_cons]
    cases decided connective (e.eval env) with
    | error trouble => rfl
    | ok b =>
      by_cases stops : b = decisive connective
      · exact if_pos stops
      · exact (if_neg stops).trans (congrArg Except.ok (Bool.eq_not_of_ne stops).symm)
  unfold apply
  dsimp only
  rw [same]

theorem eval_coalesceAll (env : Environment) (p : Position) (first : Expr) (others : List Expr) :
    (Reading.coalesceAll (first :: others) p).eval env =
      (others.map (Expr.eval env)).foldl coalesce.apply (first.eval env) := by
  rw [List.foldl_map]
  exact (List.foldl_hom (Expr.eval env) fun left right => by rw [Expr.eval]; rfl).symm

/-- A chain without brackets is the fold of its operator. -/
theorem eval_join (env : Environment) (p : Position) (several : 2 ≤ parts.length) :
    (op.join parts p).eval env = op.fold (parts.map (Expr.eval env)) := by
  cases op with
  | junction connective =>
    exact @fold_of_node _ _ _ (fun parts => (Expr.junction connective parts p).eval env)
      (eval_junction_cons env connective p) (junction_last env connective p) several
  | concat =>
    exact @fold_of_node _ _ _ (fun parts => (Expr.concat parts p).eval env) (eval_concat_cons env p)
      (concat_last env p)
      several
  | coalesce =>
    cases parts with
    | nil => cases several
    | cons first others => exact eval_coalesceAll env p first others

end Operator

/-! ## Chains with brackets -/

mutual

/-- An expression joins operands by an operator, in their order and with brackets anywhere. -/
inductive Grouped (op : Operator) : List Expr → Expr → Prop
  | operand (e : Expr) : Grouped op [e] e
  | join {operands parts : List Expr} (all : GroupedAll op operands parts)
      (several : 2 ≤ parts.length) (p : Position) :
      Grouped op operands (op.join parts p)

/-- Expressions that together join the operands. -/
inductive GroupedAll (op : Operator) : List Expr → List Expr → Prop
  | nil : GroupedAll op [] []
  | cons {operands others parts : List Expr} {part : Expr} (first : Grouped op operands part)
      (rest : GroupedAll op others parts) : GroupedAll op (operands ++ others) (part :: parts)

end

section

variable {op : Operator} {operands others parts : List Expr} {e other : Expr}

theorem GroupedAll.append {operands others front back : List Expr}
    (first : GroupedAll op operands front) (second : GroupedAll op others back) :
    GroupedAll op (operands ++ others) (front ++ back) := by
  match first with
  | .nil => exact second
  | .cons part rest =>
    rw [List.append_assoc]
    exact .cons part (rest.append second)

theorem Grouped.visible {operands : List Expr} {e : Expr} : Grouped op operands e → operands ≠ []
  | .operand e => List.cons_ne_nil e []
  | .join (.cons first _) _ _ => List.append_ne_nil_of_left_ne_nil first.visible _

mutual

/-- An expression with brackets comes to the fold of its operands. -/
theorem Grouped.eval (env : Environment) {operands : List Expr} {e : Expr} :
    Grouped op operands e → e.eval env = op.fold (operands.map (Expr.eval env))
  | .operand e => rfl
  | .join (.cons first rest) several p => by
    rw [Operator.eval_join env p several, List.map_cons, List.map_append, Operator.fold,
      rest.foldl env, first.eval env, Operator.fold_append (by simpa using first.visible)]

theorem GroupedAll.foldl (env : Environment) {operands parts : List Expr}
    {result : Except Trouble Value} :
    GroupedAll op operands parts →
      (parts.map (Expr.eval env)).foldl op.apply result =
        (operands.map (Expr.eval env)).foldl op.apply result
  | .nil => rfl
  | .cons first rest => by
    rw [List.map_cons, List.foldl_cons, rest.foldl env, List.map_append, List.foldl_append,
      first.eval env, ← Operator.foldl_apply result (by simpa using first.visible)]

end

/-- Brackets do not matter: operands that come to the same results come to the same however they are
grouped. -/
theorem Grouped.same {env : Environment} (one : Grouped op operands e)
    (another : Grouped op others other)
    (results : operands.map (Expr.eval env) = others.map (Expr.eval env)) :
    e.eval env = other.eval env := by
  rw [one.eval env, another.eval env, results]

theorem Grouped.pair (one : Grouped op operands e) (another : Grouped op others other)
    (p : Position) :
    Grouped op (operands ++ others) (op.join [e, other] p) := by
  have all := GroupedAll.cons one (.cons another .nil)
  rw [List.append_nil] at all
  exact .join all (Nat.le_refl 2) p

end

/-! ## Texts with holes -/

/-- A part of a text as an operand of `+`. -/
def Segment.operand (p : Position) : Segment → Expr
  | .text s => .literal (.text s) p
  | .hole e => e

theorem Expr.evalSegments_eq (env : Environment) (p : Position) (segments : List Segment) :
    evalSegments env segments = evalShown env (segments.map (Segment.operand p)) := by
  induction segments with
  | nil => rfl
  | cons segment rest ih =>
    cases segment with
    | text s => rw [evalSegments, List.map_cons, evalShown, Segment.operand, eval, ih]; rfl
    | hole e => rw [evalSegments, List.map_cons, evalShown, Segment.operand, ih]

/-- A text with holes comes to the concatenation of its parts. -/
theorem Expr.eval_template (env : Environment) (segments : List Segment) (p q : Position) :
    (template segments p).eval env = (concat (segments.map (Segment.operand q)) p).eval env := by
  rw [eval, eval, evalSegments_eq env q]

end BotScript
