import BotScript.Proofs.Evaluation.Grouping
import BotScript.Proofs.Layout.Expressions
import BotScript.Proofs.Syntax.Recognition

/-! Brackets in the text of a chain. However the operands of a chain are put in brackets, its tokens
are read as an expression that joins these operands, so what it comes to is the same. -/

namespace BotScript

open Grammar (Joint Level Expression Parts IsExpression positionOf)

namespace Operator

/-- The level of expressions that an operator joins the parts of. -/
def level : Operator → Level
  | junction .or => .or
  | junction .and => .and
  | concat => .concat
  | coalesce => .coalesce

/-- The level of what stands between two of an operator. -/
def operand : Operator → Level
  | junction .or => .and
  | junction .and => .not
  | concat => .coalesce
  | coalesce => .operand

/-- How an operator is written. -/
def isWritten : Operator → Token → Bool
  | junction connective => (·.isKeyword connective.word)
  | concat => Reading.isOperator "+"
  | coalesce => Reading.isOperator "??"

def joint (op : Operator) : Joint :=
  ⟨op.isWritten, op.join⟩

theorem tighter?_level (op : Operator) : op.level.tighter? = some op.operand := by
  rcases op with (_ | _) | _ | _ <;> rfl

theorem joint?_level (op : Operator) : op.level.joint? = some op.joint := by
  rcases op with (_ | _) | _ | _ <;> rfl

end Operator

/-- Tokens are a chain of operands: these stand in their order with the operator between them, and
any part of the chain may stand in brackets. -/
inductive Written (op : Operator) : List Expr → List Token → Prop
  | operand {tokens : List Token} {e : Expr}
      (derived : Expression Reading.template op.operand tokens e []) :
      Written op [e] tokens
  | brackets {operands : List Expr} {tokens : List Token} {opening closing : Token}
      (opens : opening.kind = .leftParen) (inner : Written op operands tokens)
      (closes : closing.kind = .rightParen) :
      Written op operands (opening :: (tokens ++ [closing]))
  | chain {operands others : List Expr} {front back : List Token} {sign : Token}
      (first : Written op operands front) (joins : op.isWritten sign)
      (second : Written op others back) : Written op (operands ++ others) (front ++ sign :: back)

namespace Grammar

variable {template : Templates} {level : Level} {joint : Joint}
  {tokens front back rest : List Token} {e : Expr}
  {es others : List Expr} {link : Token} {op : Operator} {operands : List Expr}

/-- An operand stands wherever an expression of some level is wanted. -/
theorem Expression.loosen (derived : Expression template .operand tokens e rest) (level : Level) :
    Expression template level tokens e rest := by
  have coalesce : Expression template .coalesce tokens e rest := .tighter rfl derived
  have concat : Expression template .concat tokens e rest := .tighter rfl coalesce
  have comparison : Expression template .comparison tokens e rest := .tighter rfl concat
  have negation : Expression template .not tokens e rest := .tighter rfl comparison
  cases level with
  | operand => exact derived
  | coalesce => exact coalesce
  | concat => exact concat
  | comparison => exact comparison
  | not => exact negation
  | and => exact .tighter rfl negation
  | or => exact negation.term

/-- One chain behind another. -/
theorem Parts.append {front : List Token} {es : List Expr}
    (first : Parts template level joint front es []) (joins : joint.joins link)
    (second : Parts template level joint back others []) :
    Parts template level joint (front ++ link :: back) (es ++ others) [] := by
  match first with
  | .last only =>
    obtain ⟨front, rfl, again⟩ := only.frame
    rw [List.append_nil]
    exact .more (again (link :: back)) joins second
  | @Parts.more _ _ _ next _ behind _ e es head links rest =>
    obtain ⟨front, rfl, again⟩ := head.frame
    rw [List.append_assoc]
    exact .more (again (next :: (behind ++ link :: back))) links (rest.append joins second)

/-- Parts that join operands are read as one expression that joins them. -/
theorem Parts.grouped (all : Parts Reading.template op.operand op.joint tokens es [])
    (grouped : GroupedAll op operands es) :
    ∃ e, IsExpression tokens e ∧ Grouped op operands e := by
  have derived := (Expression.joined_iff op.tighter?_level op.joint?_level).mpr ⟨es, all, rfl⟩
  refine ⟨_, derived.term, ?_⟩
  cases grouped with
  | nil => exact absurd all.length_pos (Nat.lt_irrefl 0)
  | cons first rest =>
    cases rest with
    | nil =>
      rw [List.append_nil]
      exact first
    | cons second others => exact .join (.cons first (.cons second others)) (Nat.le_add_left ..) _

end Grammar

namespace Written

variable {op : Operator} {operands others : List Expr} {tokens tokens' : List Token}

theorem parts (written : Written op operands tokens) :
    ∃ parts, Parts Reading.template op.operand op.joint tokens parts [] ∧
      GroupedAll op operands parts := by
  induction written with
  | operand derived => exact ⟨[_], .last derived, .cons (.operand _) .nil⟩
  | @brackets operands tokens opening closing opens inner closes ih =>
    obtain ⟨parts, all, grouped⟩ := ih
    obtain ⟨e, derived, joined⟩ := all.grouped grouped
    obtain ⟨front, same, again⟩ := derived.frame
    rw [List.append_nil] at same
    subst same
    have group := Expression.group opens (again [closing]) closes
    have all : Parts Reading.template op.operand op.joint _ _ _ := .last (group.loosen op.operand)
    refine ⟨[e], all, ?_⟩
    have single := GroupedAll.cons joined .nil
    rwa [List.append_nil] at single
  | chain first joins second ih more =>
    obtain ⟨front, all, grouped⟩ := ih
    obtain ⟨back, others, further⟩ := more
    exact ⟨front ++ back, all.append joins others, grouped.append further⟩

/-- The tokens of a chain are those of an expression that joins its operands. -/
theorem derived (written : Written op operands tokens) :
    ∃ e, IsExpression tokens e ∧ Grouped op operands e := by
  obtain ⟨parts, all, grouped⟩ := written.parts
  exact all.grouped grouped

end Written

/-- Operands that differ in positions alone come to the same. -/
theorem Expr.AllUnplaced.eval {operands others : List Expr} (look : AllUnplaced operands others)
    (env : Environment) :
    operands.map (Expr.eval env) = others.map (Expr.eval env) := by
  have blind (exprs : List Expr) : (exprs.map (seen Position.blind)).map (Expr.eval env) =
      exprs.map (Expr.eval env) := by
    simp [seen, Function.comp_def]
  rw [← blind operands, ← blind others]
  exact congrArg (List.map (Expr.eval env)) look

namespace Reading

open BotScript.Expr (AllUnplaced)

/-- The tokens are read to their end as an expression. -/
def Reads (tokens : List Token) (e : Expr) : Prop :=
  ∃ parsed, expression template (.all tokens) = .ok parsed ∧ parsed.value = e ∧
    parsed.rest.tokens = []

/-- What a chain of one operator comes to, a value or a failure with its cause, does not depend on
its brackets. Three operands come to the same in one chain and in brackets on either side, and so do
any operands with any brackets. Texts of the same operands with other brackets are read as such
expressions. A text with holes comes to the concatenation of its parts. -/
theorem chains_regroup (op : Operator) (env : Environment) :
    (∀ a b c p q, (op.join [op.join [a, b] q, c] p).eval env = (op.join [a, b, c] p).eval env ∧
      (op.join [a, op.join [b, c] q] p).eval env = (op.join [a, b, c] p).eval env) ∧
    (∀ operands one other, Grouped op operands one → Grouped op operands other →
      one.eval env = other.eval env) ∧
    (∀ operands others tokens tokens', Written op operands tokens → Written op others tokens' →
      AllUnplaced operands others →
      ∃ one other, Reads tokens one ∧ Reads tokens' other ∧ one.eval env = other.eval env) ∧
    (∀ segments p q, (Expr.template segments p).eval env =
      (Expr.concat (segments.map (Segment.operand q)) p).eval env) := by
  refine ⟨fun a b c p q => ?_, fun operands one other grouped regrouped =>
    grouped.same regrouped rfl,
    fun operands others tokens tokens' written rewritten look => ?_, Expr.eval_template env⟩
  · have plain : Grouped op [a, b, c] (op.join [a, b, c] p) :=
      .join (.cons (.operand a) (.cons (.operand b) (.cons (.operand c) .nil))) (Nat.le_succ 2) p
    have left : Grouped op [a, b, c] _ :=
      ((Grouped.operand a).pair (.operand b) q).pair (.operand c) p
    have right : Grouped op [a, b, c] _ :=
      (Grouped.operand a).pair ((Grouped.operand b).pair (.operand c) q) p
    exact ⟨left.same plain rfl, right.same plain rfl⟩
  · obtain ⟨one, derived, grouped⟩ := written.derived
    obtain ⟨other, rederived, regrouped⟩ := rewritten.derived
    exact ⟨one, other, derived.read, rederived.read, grouped.same regrouped (look.eval env)⟩

/-- The tokens of `b or null or true`. -/
def plainChain : List Token :=
  [⟨.name, "b", ⟨1, 1⟩⟩, ⟨.keyword, "or", ⟨1, 3⟩⟩, ⟨.name, "null", ⟨1, 6⟩⟩,
    ⟨.keyword, "or", ⟨1, 11⟩⟩, ⟨.keyword, "true", ⟨1, 14⟩⟩]

/-- The tokens of `b or (null or true)`. -/
def bracketedChain : List Token :=
  [⟨.name, "b", ⟨1, 1⟩⟩, ⟨.keyword, "or", ⟨1, 3⟩⟩, ⟨.leftParen, "(", ⟨1, 6⟩⟩,
    ⟨.name, "null", ⟨1, 7⟩⟩, ⟨.keyword, "or", ⟨1, 12⟩⟩, ⟨.keyword, "true", ⟨1, 15⟩⟩,
    ⟨.rightParen, ")", ⟨1, 19⟩⟩]

/-- The operands of such a chain; the last two may stand anywhere. -/
def chainOperands (p q : Position) : List Expr :=
  [.reference "b" ⟨1, 1⟩, .literal .null p, .literal (.boolean true) q]

/-- Something in a chain of conditions that is no boolean is the same mistake with brackets and
without. -/
theorem plainChain_regroups : Written (.junction .or) (chainOperands ⟨1, 6⟩ ⟨1, 14⟩) plainChain ∧
    Written (.junction .or) (chainOperands ⟨1, 7⟩ ⟨1, 15⟩) bracketedChain ∧
    AllUnplaced (chainOperands ⟨1, 6⟩ ⟨1, 14⟩) (chainOperands ⟨1, 7⟩ ⟨1, 15⟩) ∧
    ∃ one other, Reads plainChain one ∧ Reads bracketedChain other ∧
      one.eval ⟨[("b", .boolean false)]⟩ = other.eval ⟨[("b", .boolean false)]⟩ := by
  have first : Written (.junction .or) [.reference "b" ⟨1, 1⟩] [⟨.name, "b", ⟨1, 1⟩⟩] :=
    .operand (Expression.loosen (.reference (by decide) (by decide)) .and)
  have null (p : Position) : Written (.junction .or) [.literal .null p] [⟨.name, "null", p⟩] :=
    .operand (Expression.loosen (.null rfl) .and)
  have last (p : Position) : Written (.junction .or) [.literal (.boolean true) p]
    [⟨.keyword, "true", p⟩] :=
    .operand (Expression.loosen (.truth rfl) .and)
  have plain : Written (.junction .or) (chainOperands ⟨1, 6⟩ ⟨1, 14⟩) plainChain :=
    .chain first (by decide) (.chain (null _) (by decide) (last _))
  have bracketed : Written (.junction .or) (chainOperands ⟨1, 7⟩ ⟨1, 15⟩) bracketedChain :=
    .chain first (by decide) (.brackets (by decide)
      (.chain (null _) (by decide) (last _)) (by decide))
  obtain ⟨-, -, regrouped, -⟩ := chains_regroup (.junction .or) ⟨[("b", .boolean false)]⟩
  exact ⟨plain, bracketed, rfl, regrouped _ _ _ _ plain bracketed rfl⟩

end Reading

end BotScript
