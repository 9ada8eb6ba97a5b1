import BotScript.Proofs.Alike.Traces
import BotScript.Run.Selection

/-! Programs as they are seen through a view of positions. An expression is seen with all its parts
at one place, because what goes wrong in it is blamed on the whole. Programs that look the same
differ in positions alone. -/

namespace BotScript

variable {sight : Position → Position}

namespace Expr

@[simp] theorem position_relocate (p : Position) (expr : Expr) :
    (expr.relocate p).position = p := by
  cases expr <;> rfl

@[simp] theorem label_relocate (p : Position) (expr : Expr) :
    (expr.relocate p).label = expr.label := by
  cases expr <;> rfl

mutual

/-- Positions never take part in what an expression means. -/
@[simp] theorem eval_relocate (env : Environment) (p : Position) (expr : Expr) :
    (expr.relocate p).eval env = expr.eval env := by
  cases expr with
  | literal => rfl
  | reference => rfl
  | list items => simp only [relocate, eval, evalAll_relocate env p items]
  | object entries => simp only [relocate, eval, evalEntries_relocate env p entries]
  | property base => simp only [relocate, eval, eval_relocate env p base, label_relocate]
  | template segments => simp only [relocate, eval, evalSegments_relocate env p segments]
  | contains left right =>
    simp only [relocate, eval, eval_relocate env p left, eval_relocate env p right]
  | junction connective operands =>
    simp only [relocate, eval, evalJunction_relocate env p connective operands]
  | negation operand => simp only [relocate, eval, eval_relocate env p operand]
  | equals left right =>
    simp only [relocate, eval, eval_relocate env p left, eval_relocate env p right]
  | concat parts => simp only [relocate, eval, evalShown_relocate env p parts]
  | coalesce left right =>
    simp only [relocate, eval, eval_relocate env p left, eval_relocate env p right]

theorem evalAll_relocate (env : Environment) (p : Position) (items : List Expr) :
    evalAll env (relocateAll p items) = evalAll env items := by
  match items with
  | [] => rfl
  | expr :: rest =>
    simp only [relocateAll, evalAll, eval_relocate env p expr, evalAll_relocate env p rest]

theorem evalEntries_relocate (env : Environment) (p : Position) (entries : List (String × Expr)) :
    evalEntries env (relocateEntries p entries) = evalEntries env entries := by
  match entries with
  | [] => rfl
  | (key, expr) :: rest =>
    simp only [relocateEntries, evalEntries, eval_relocate env p expr,
      evalEntries_relocate env p rest]

theorem evalShown_relocate (env : Environment) (p : Position) (parts : List Expr) :
    evalShown env (relocateAll p parts) = evalShown env parts := by
  match parts with
  | [] => rfl
  | expr :: rest =>
    simp only [relocateAll, evalShown, eval_relocate env p expr, evalShown_relocate env p rest]

theorem evalSegments_relocate (env : Environment) (p : Position) (segments : List Segment) :
    evalSegments env (relocateSegments p segments) = evalSegments env segments := by
  match segments with
  | [] => rfl
  | .text s :: rest => simp only [relocateSegments, evalSegments, evalSegments_relocate env p rest]
  | .hole expr :: rest =>
    simp only [relocateSegments, evalSegments, eval_relocate env p expr,
      evalSegments_relocate env p rest]

theorem evalJunction_relocate (env : Environment) (p : Position) (connective : Junction)
    (operands : List Expr) :
    evalJunction env connective (relocateAll p operands) =
      evalJunction env connective operands := by
  match operands with
  | [] => rfl
  | expr :: rest =>
    simp only [relocateAll, evalJunction, eval_relocate env p expr,
      evalJunction_relocate env p connective rest]

end

mutual

/-- Of two moves only the second one counts. -/
@[simp] theorem relocate_relocate (p q : Position) (expr : Expr) :
    (expr.relocate p).relocate q = expr.relocate q := by
  cases expr with
  | literal => rfl
  | reference => rfl
  | list items => simp only [relocate, relocateAll_relocateAll p q items]
  | object entries => simp only [relocate, relocateEntries_relocateEntries p q entries]
  | property base => simp only [relocate, relocate_relocate p q base]
  | template segments => simp only [relocate, relocateSegments_relocateSegments p q segments]
  | contains left right =>
    simp only [relocate, relocate_relocate p q left, relocate_relocate p q right]
  | junction connective operands => simp only [relocate, relocateAll_relocateAll p q operands]
  | negation operand => simp only [relocate, relocate_relocate p q operand]
  | equals left right =>
    simp only [relocate, relocate_relocate p q left, relocate_relocate p q right]
  | concat parts => simp only [relocate, relocateAll_relocateAll p q parts]
  | coalesce left right =>
    simp only [relocate, relocate_relocate p q left, relocate_relocate p q right]

theorem relocateAll_relocateAll (p q : Position) (exprs : List Expr) :
    relocateAll q (relocateAll p exprs) = relocateAll q exprs := by
  match exprs with
  | [] => rfl
  | expr :: rest =>
    simp only [relocateAll, relocate_relocate p q expr, relocateAll_relocateAll p q rest]

theorem relocateEntries_relocateEntries (p q : Position) (entries : List (String × Expr)) :
    relocateEntries q (relocateEntries p entries) = relocateEntries q entries := by
  match entries with
  | [] => rfl
  | (key, expr) :: rest =>
    simp only [relocateEntries, relocate_relocate p q expr,
      relocateEntries_relocateEntries p q rest]

theorem relocateSegments_relocateSegments (p q : Position) (segments : List Segment) :
    relocateSegments q (relocateSegments p segments) = relocateSegments q segments := by
  match segments with
  | [] => rfl
  | .text s :: rest => simp only [relocateSegments, relocateSegments_relocateSegments p q rest]
  | .hole expr :: rest =>
    simp only [relocateSegments, relocate_relocate p q expr,
      relocateSegments_relocateSegments p q rest]

end

/-- An expression as it is seen. -/
def seen (sight : Position → Position) (expr : Expr) : Expr :=
  expr.relocate (sight expr.position)

/-- Named expressions as they are seen. -/
def seenEntries (sight : Position → Position) (entries : List (String × Expr)) :
    List (String × Expr) :=
  entries.map fun entry => (entry.1, entry.2.seen sight)

theorem sight_of_seen {expr other : Expr} (look : expr.seen sight = other.seen sight) :
    sight expr.position = sight other.position := by
  simpa [seen] using congrArg position look

theorem eval_of_seen {expr other : Expr} (look : expr.seen sight = other.seen sight)
    (env : Environment) :
    expr.eval env = other.eval env := by
  simpa [seen] using congrArg (eval env) look

end Expr

mutual

/-- A statement as it is seen. -/
def Stmt.seen (sight : Position → Position) : Stmt → Stmt
  | say expr p => say (expr.seen sight) (sight p)
  | ask prompt options p => ask (prompt.seen sight) (Expr.seenEntries sight options) (sight p)
  | set name expr p => set name (expr.seen sight) (sight p)
  | call tool args bindAs p => call tool (Expr.seenEntries sight args) bindAs (sight p)
  | branch condition thenBody elseBody p =>
    branch (condition.seen sight) (Stmt.seenAll sight thenBody)
      (Stmt.seenElse sight elseBody) (sight p)
  | loop item collection body p =>
    loop item (collection.seen sight) (Stmt.seenAll sight body) (sight p)
  | remember key value mode p => remember (key.seen sight) (value.seen sight) mode (sight p)
  | recollect key bindAs p => recollect (key.seen sight) bindAs (sight p)

def Stmt.seenAll (sight : Position → Position) : List Stmt → List Stmt
  | [] => []
  | stmt :: rest => stmt.seen sight :: Stmt.seenAll sight rest

def Stmt.seenElse (sight : Position → Position) : Option (List Stmt) → Option (List Stmt)
  | none => none
  | some body => some (Stmt.seenAll sight body)

end

def MemoryVariable.seen (sight : Position → Position) (declared : MemoryVariable) :
    MemoryVariable :=
  { declared with position := sight declared.position }

def MemoryBlock.seen (sight : Position → Position) (block : MemoryBlock) : MemoryBlock :=
  ⟨block.scope, block.declarations.map (MemoryVariable.seen sight), sight block.position⟩

def Handler.seen (sight : Position → Position) (handler : Handler) : Handler :=
  ⟨handler.event, handler.guard.map (Expr.seen sight), Stmt.seenAll sight handler.body,
    sight handler.position⟩

def Bot.seen (sight : Position → Position) (bot : Bot) : Bot :=
  { bot with
    memory := bot.memory.map (MemoryBlock.seen sight)
    handlers := bot.handlers.map (Handler.seen sight)
    position := sight bot.position }

/-- A program as it is seen. -/
def Program.seen (sight : Position → Position) (program : Program) : Program :=
  ⟨program.bots.map (Bot.seen sight)⟩

/-- All positions look the same. -/
def Position.blind (_ : Position) : Position :=
  .start

/-- A program without its positions. -/
def Program.unplaced (program : Program) : Program :=
  program.seen Position.blind

end BotScript
