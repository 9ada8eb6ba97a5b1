import BotScript.Syntax.Program

/-!
Syntax trees as plain data. An outline keeps the kind of every node and the names of its parts in a
fixed order; from it come the documents that are printed and sent.
-/

namespace BotScript

/-- A syntax tree with named parts. -/
inductive Outline
  | node (kind : String) (parts : List (String × Outline))
  | sequence (items : List Outline)
  | table (entries : List (String × Outline))
  | position (p : Position)
  | leaf (value : Value)

namespace Outline

mutual

/-- The data that an outline is, without the kinds of its nodes. -/
def data : Outline → Value
  | node _ parts => .object (dataEntries parts)
  | sequence items => .array (dataItems items)
  | table entries => .object (dataEntries entries)
  | position p => .object [("line", .integer p.line), ("column", .integer p.column)]
  | leaf value => value

def dataItems : List Outline → List Value
  | [] => []
  | item :: rest => data item :: dataItems rest

def dataEntries : List (String × Outline) → List (String × Value)
  | [] => []
  | (key, item) :: rest => (key, data item) :: dataEntries rest

end

end Outline

open Outline

/-- A node, whose position is its last part. -/
def outlineNode (kind : String) (parts : List (String × Outline)) (p : Position) : Outline :=
  .node kind (parts ++ [("span", .position p)])

def outlineText (s : String) : Outline :=
  .leaf (.text s)

mutual

def Expr.outline : Expr → Outline
  | .literal value p => outlineNode "Literal" [("value", .leaf value)] p
  | .list items p => outlineNode "ListLiteral" [("items", .sequence (Expr.outlines items))] p
  | .object entries p =>
    outlineNode "ObjectLiteral" [("entries", .table (Expr.outlineEntries entries))] p
  | .reference name p => outlineNode "VarRef" [("name", outlineText name)] p
  | .property base path p =>
    outlineNode "PropAccess" [("base", base.outline), ("path", .sequence (path.map outlineText))] p
  | .template segments p =>
    outlineNode "StringTemplate" [("segments", .sequence (Expr.outlineSegments segments))] p
  | .contains left right p =>
    outlineNode "Contains" [("left", left.outline), ("right", right.outline)] p
  | .junction connective operands p =>
    outlineNode "BoolOp" [("op", outlineText connective.word),
      ("operands", .sequence (Expr.outlines operands))] p
  | .negation operand p =>
    outlineNode "BoolOp" [("op", outlineText "not"), ("operands", .sequence [operand.outline])] p
  | .equals left right negated p =>
    outlineNode "Equals"
      [("left", left.outline), ("right", right.outline), ("negated", .leaf (.boolean negated))] p
  | .concat parts p => outlineNode "Concat" [("parts", .sequence (Expr.outlines parts))] p
  | .coalesce left right p =>
    outlineNode "Coalesce" [("left", left.outline), ("right", right.outline)] p

def Expr.outlines : List Expr → List Outline
  | [] => []
  | expr :: rest => expr.outline :: Expr.outlines rest

def Expr.outlineEntries : List (String × Expr) → List (String × Outline)
  | [] => []
  | (key, expr) :: rest => (key, expr.outline) :: Expr.outlineEntries rest

def Expr.outlineSegments : List Segment → List Outline
  | [] => []
  | .text s :: rest => outlineText s :: Expr.outlineSegments rest
  | .hole expr :: rest => expr.outline :: Expr.outlineSegments rest

end

mutual

def Stmt.outline : Stmt → Outline
  | .say expr p => outlineNode "SayStmt" [("expr", expr.outline)] p
  | .ask prompt options p =>
    outlineNode "AskAIStmt" [("prompt", prompt.outline),
      ("options", .table (Expr.outlineEntries options))] p
  | .set name expr p => outlineNode "SetStmt" [("name", outlineText name), ("expr", expr.outline)] p
  | .call tool args bindAs p =>
    outlineNode "CallStmt"
      [("tool", outlineText tool), ("args", .table (Expr.outlineEntries args)),
        ("bind_as", .leaf (.ofText? bindAs))] p
  | .branch condition thenBody elseBody p =>
    outlineNode "IfStmt"
      [("condition", condition.outline), ("then_body", .sequence (Stmt.outlines thenBody)),
        ("else_body", Stmt.outlineBody? elseBody)] p
  | .loop item collection body p =>
    outlineNode "LoopStmt"
      [("item", outlineText item), ("collection", collection.outline),
        ("body", .sequence (Stmt.outlines body))] p
  | .remember key value mode p =>
    outlineNode "RememberStmt"
      [("key", key.outline), ("value", value.outline), ("mode", outlineText mode.word)] p
  | .recollect key bindAs p =>
    outlineNode "RecallStmt" [("key", key.outline), ("bind_as", outlineText bindAs)] p

def Stmt.outlines : List Stmt → List Outline
  | [] => []
  | stmt :: rest => stmt.outline :: Stmt.outlines rest

def Stmt.outlineBody? : Option (List Stmt) → Outline
  | none => .leaf .null
  | some body => .sequence (Stmt.outlines body)

end

def MemoryVariable.outline (declared : MemoryVariable) : Outline :=
  outlineNode "MemoryVarDecl"
    [("name", outlineText declared.name), ("type_name", outlineText declared.typeName)]
      declared.position

def MemoryBlock.outline (block : MemoryBlock) : Outline :=
  outlineNode "MemoryBlock"
    [("scope", outlineText block.scope.name),
      ("variables", .sequence (block.declarations.map MemoryVariable.outline))]
    block.position

def Handler.outline (handler : Handler) : Outline :=
  outlineNode "Handler"
    [("event", outlineText handler.event),
      ("guard", (handler.guard.map Expr.outline).getD (.leaf .null)),
      ("body", .sequence (Stmt.outlines handler.body))]
    handler.position

def Bot.outline (bot : Bot) : Outline :=
  outlineNode "BotDecl"
    [("name", outlineText bot.name), ("kind", outlineText bot.kind.word),
      ("description", .leaf (.ofText? bot.description)),
      ("memory_blocks", .sequence (bot.memory.map MemoryBlock.outline)),
      ("tools", .sequence (bot.tools.map outlineText)),
      ("handlers", .sequence (bot.handlers.map Handler.outline))]
    bot.position

def Program.outline (program : Program) : Outline :=
  .node "Program" [("bots", .sequence (program.bots.map Bot.outline))]

end BotScript
