import BotScript.Syntax.Expr

/-!
Statements and declarations. A program declares bots; a bot has memory variables, tools and
handlers; a handler has the statements that answer an event.
-/

namespace BotScript

/-- Whether a write to memory replaces a value or extends a list. -/
inductive RememberMode
  | set
  | append
deriving DecidableEq, Repr

def RememberMode.word : RememberMode → String
  | set => "set"
  | append => "append"

inductive Stmt
  | say (expr : Expr) (position : Position)
  /-- A prompt for the assistant; its answer is bound to `result`. -/
  | ask (prompt : Expr) (options : List (String × Expr)) (position : Position)
  | set (name : String) (expr : Expr) (position : Position)
  | call (tool : String) (args : List (String × Expr)) (bindAs : Option String)
      (position : Position)
  | branch (condition : Expr) (thenBody : List Stmt) (elseBody : Option (List Stmt))
      (position : Position)
  | loop (item : String) (collection : Expr) (body : List Stmt) (position : Position)
  | remember (key value : Expr) (mode : RememberMode) (position : Position)
  | recollect (key : Expr) (bindAs : String) (position : Position)

/-- The name that holds a tool's answer when the program gives no other. -/
def Stmt.resultName : String := "result"

/-- The position that errors about a statement name. -/
def Stmt.position : Stmt → Position
  | say _ p | ask _ _ p | set _ _ p | call _ _ _ p | branch _ _ _ p | loop _ _ _ p |
    remember _ _ _ p
  | recollect _ _ p => p

/-- Who shares a memory variable: the runs of one bot, or those of one user. -/
inductive Scope
  | session
  | user
deriving DecidableEq, Repr

namespace Scope

def name : Scope → String
  | session => "session"
  | user => "user"

def ofName? (name : String) : Option Scope :=
  if name = "session" then some session
  else if name = "user" then some user
  else none

end Scope

/-- A declared memory variable. -/
structure MemoryVariable where
  name : String
  typeName : String
  position : Position
deriving DecidableEq, Repr

structure MemoryBlock where
  scope : Scope
  declarations : List MemoryVariable
  position : Position
deriving DecidableEq, Repr

/-- The answer to an event, when its guard holds. -/
structure Handler where
  event : String
  guard : Option Expr
  body : List Stmt
  position : Position

/-- The words that declare a bot. -/
inductive BotKind
  | bot
  | agent
deriving DecidableEq, Repr

def BotKind.word : BotKind → String
  | bot => "bot"
  | agent => "agent"

structure Bot where
  name : String
  kind : BotKind
  description : Option String
  memory : List MemoryBlock
  tools : List String
  handlers : List Handler
  position : Position

structure Program where
  bots : List Bot

end BotScript
