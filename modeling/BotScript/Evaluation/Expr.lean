import BotScript.Evaluation.Environment
import BotScript.Syntax.Expr
import BotScript.Value.Access

/-!
The value of an expression in an environment. Parts are evaluated from left to right, and the first
failure is that of the whole, except that `??` replaces what is missing on its left side.
-/

namespace BotScript

namespace Expr

/-- The name of a base value in messages about its fields. -/
def label : Expr → String
  | reference name _ => name
  | _ => "value"

/-- Fields read one after the other; `label` names the value in messages. -/
def readPath (value : Value) (label : String) : List String → Except Trouble Value
  | [] => .ok value
  | field :: rest => do readPath (← value.property field label) s!"{label}.{field}" rest

/-- What a connective says about its operands in messages. -/
def operandContext (word : String) : String :=
  s!"Operand of '{word}'"

/-- The boolean that decides a connective: `or` ends with the first true operand, `and` with the
first false one. -/
def decisive : Junction → Bool
  | .or => true
  | .and => false

/-- `??` replaces its left side: it is null, or it is missing. -/
def isReplaced : Except Trouble Value → Bool
  | .ok value => value.isNull
  | .error (.cause cause) => cause.isMissing
  | .error (.numeral _) => false

mutual

/-- The value of an expression. -/
def eval (env : Environment) : Expr → Except Trouble Value
  | literal value _ => .ok value
  | list items _ => do return .array (← evalAll env items)
  | object entries _ => do return .object (Entries.ofList (← evalEntries env entries))
  | reference name _ => (env.resolve name).mapError .cause
  | property base path _ => do readPath (← eval env base) base.label path
  | template segments _ => do return .text (String.join (← evalSegments env segments))
  | contains left right _ => do
    let left ← eval env left
    let right ← eval env right
    return .boolean (← (left.contains right).mapError .cause)
  | junction connective operands _ => do return .boolean (← evalJunction env connective operands)
  | negation operand _ => do
    let value ← eval env operand
    return .boolean (!(← (value.asBoolean (operandContext "not")).mapError .cause))
  | equals left right negated _ => do
    let left ← eval env left
    let right ← eval env right
    return .boolean (left.same right != negated)
  | concat parts _ => do return .text (String.join (← evalShown env parts))
  | coalesce left right _ =>
    let result := eval env left
    if isReplaced result then eval env right else result

def evalAll (env : Environment) : List Expr → Except Trouble (List Value)
  | [] => .ok []
  | expr :: rest => do return (← eval env expr) :: (← evalAll env rest)

def evalEntries (env : Environment) : List (String × Expr) → Except Trouble (List (String × Value))
  | [] => .ok []
  | (key, expr) :: rest => do return (key, ← eval env expr) :: (← evalEntries env rest)

/-- The texts of the parts of a concatenation. -/
def evalShown (env : Environment) : List Expr → Except Trouble (List String)
  | [] => .ok []
  | expr :: rest => do return (← eval env expr).shown :: (← evalShown env rest)

/-- The texts of the segments of a template. -/
def evalSegments (env : Environment) : List Segment → Except Trouble (List String)
  | [] => .ok []
  | .text s :: rest => do return s :: (← evalSegments env rest)
  | .hole expr :: rest => do return (← eval env expr).shown :: (← evalSegments env rest)

/-- The boolean of a connective; operands behind the one that decides it are not evaluated. -/
def evalJunction (env : Environment) (connective : Junction) : List Expr → Except Trouble Bool
  | [] => .ok (!decisive connective)
  | expr :: rest => do
    let value ← eval env expr
    let b ← (value.asBoolean (operandContext connective.word)).mapError .cause
    if b = decisive connective then return b else evalJunction env connective rest

end

/-- The value of an expression; failures are blamed on its position. -/
def evaluate (env : Environment) (expr : Expr) : Except Stop Value :=
  (expr.eval env).mapError (Trouble.locate expr.position)

/-- The text of an expression. -/
def render (env : Environment) (expr : Expr) : Except Stop String := do
  return (← evaluate env expr).shown

/-- The boolean that a condition is; `context` says in messages what it decides. -/
def condition (env : Environment) (expr : Expr) (context : String) : Except Stop Bool := do
  let value ← evaluate env expr
  (value.asBoolean context).mapError fun cause => Trouble.locate expr.position (.cause cause)

/-- The values of named expressions, evaluated in order. -/
def evaluateEntries (env : Environment) : List (String × Expr) → Except Stop (List (String × Value))
  | [] => .ok []
  | (key, expr) :: rest => do return (key, ← evaluate env expr) :: (← evaluateEntries env rest)

end Expr

end BotScript
