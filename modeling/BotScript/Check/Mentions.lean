import BotScript.Syntax.Program

/-!
What a program mentions, seen without running it: the statements of a body, the variables that they
may bind and the variables that they read.
-/

namespace BotScript

namespace Stmt

mutual

/-- A statement followed by the statements inside it, in the order of the text. -/
def flatten : Stmt → List Stmt
  | branch condition thenBody elseBody p =>
    branch condition thenBody elseBody p :: (flattenAll thenBody ++ flattenElse elseBody)
  | loop item collection body p => loop item collection body p :: flattenAll body
  | other => [other]

def flattenAll : List Stmt → List Stmt
  | [] => []
  | stmt :: rest => flatten stmt ++ flattenAll rest

def flattenElse : Option (List Stmt) → List Stmt
  | none => []
  | some body => flattenAll body

end

/-- The variable that a statement itself binds. -/
def bound? : Stmt → Option String
  | ask .. => some resultName
  | set name _ _ => some name
  | call _ _ bindAs _ => bindAs
  | loop item _ _ _ => some item
  | recollect _ bindAs _ => some bindAs
  | say .. | branch .. | remember .. => none

/-- The expressions that a statement itself evaluates. -/
def expressions : Stmt → List Expr
  | say expr _ => [expr]
  | ask prompt options _ => prompt :: options.map Prod.snd
  | set _ expr _ => [expr]
  | call _ args _ _ => args.map Prod.snd
  | branch condition _ _ _ => [condition]
  | loop _ collection _ _ => [collection]
  | remember key value _ _ => [key, value]
  | recollect key _ _ => [key]

/-- The tool that a statement calls by name. -/
def calledTool? : Stmt → Option String
  | call tool _ _ _ => some tool
  | _ => none

end Stmt

namespace Expr

mutual

/-- The variables that an expression needs, with their places. The left side of `??` may be missing,
so it needs none. -/
def reads : Expr → List (String × Position)
  | literal .. => []
  | list items _ => readsAll items
  | object entries _ => readsEntries entries
  | reference name p => [(name, p)]
  | property base _ _ => reads base
  | template segments _ => readsSegments segments
  | contains left right _ => reads left ++ reads right
  | junction _ operands _ => readsAll operands
  | negation operand _ => reads operand
  | equals left right _ _ => reads left ++ reads right
  | concat parts _ => readsAll parts
  | coalesce _ right _ => reads right

def readsAll : List Expr → List (String × Position)
  | [] => []
  | expr :: rest => reads expr ++ readsAll rest

def readsEntries : List (String × Expr) → List (String × Position)
  | [] => []
  | (_, expr) :: rest => reads expr ++ readsEntries rest

def readsSegments : List Segment → List (String × Position)
  | [] => []
  | .text _ :: rest => readsSegments rest
  | .hole expr :: rest => reads expr ++ readsSegments rest

end

end Expr

namespace Handler

/-- All statements of a handler. -/
def statements (handler : Handler) : List Stmt :=
  Stmt.flattenAll handler.body

/-- The variables that the statements of a handler bind somewhere. -/
def boundNames (handler : Handler) : List String :=
  handler.statements.filterMap Stmt.bound?

/-- The expressions of a handler: its guard and those of its statements. -/
def expressions (handler : Handler) : List Expr :=
  handler.guard.toList ++ handler.statements.flatMap Stmt.expressions

/-- The variables that a handler needs, with their places. -/
def reads (handler : Handler) : List (String × Position) :=
  handler.expressions.flatMap Expr.reads

end Handler

namespace Bot

/-- The declared variables of a bot. -/
def memoryNames (bot : Bot) : List String :=
  bot.memory.flatMap fun block => block.declarations.map MemoryVariable.name

/-- The handlers of a bot have answers to an event. -/
def declares (bot : Bot) (event : String) : Bool :=
  bot.handlers.any (·.event = event)

/-- Some handler answers an event whatever the input is. -/
def hasFallback (bot : Bot) (event : String) : Bool :=
  bot.handlers.any fun handler => handler.event = event && handler.guard.isNone

/-- The events that a bot answers, each once, in the order in which they are first named. -/
def events (bot : Bot) : List String :=
  bot.handlers.foldl (fun events handler =>
    if events.contains handler.event then events else events ++ [handler.event]) []

end Bot

end BotScript
