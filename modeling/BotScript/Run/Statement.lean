import BotScript.Report.Log
import BotScript.Run.State
import BotScript.Syntax.Program
import BotScript.Tool.Call

/-!
What statements do. Each one evaluates what it needs, says in its record what it is about, and then
acts; a statement that fails has not changed any variable, except that a variable keeps its new
value when the memory refuses it.
-/

namespace BotScript

namespace Value

/-- Values that count as absent where a default can stand for them. -/
def isVoid : Value → Bool
  | null | boolean false | text "" | array [] | object [] => true
  | integer n => n = 0
  | number x => x.eq .zero
  | _ => false

/-- The key of a memory entry that a program computes: a text, or the text of a number. -/
def memoryKey : Value → Except Cause String
  | text s => .ok s
  | value =>
    match value.kind with
    | .number => .ok value.shown
    | kind => .error (.notAKey kind)

/-- The items that a loop goes over. -/
def loopItems : Value → Except Cause (List Value)
  | array items => .ok items
  | value => .error (.notIterable value.kind)

end Value

namespace Run

/-- A call of a tool, with what is told about it. -/
def callTool (setup : Setup) (call : ToolCall) : Run ToolResult := do
  tell (call.announcement setup.metadata.runId)
  let ended ← host (call.perform setup.deadline setup.settings.toolTimeout)
  tell (call.ending ended)
  match ended.result with
  | .ok result => pure result
  | .error fault => throw (.fault fault)

/-- The first tool that can answer prompts, under the name by which it was found. -/
def assistant (setup : Setup) : Except Cause (String × Tool) :=
  let found := setup.settings.assistants.findSome? fun name =>
    (setup.catalogue.get? name).map fun tool => (name, tool)
  match found with
  | some named => .ok named
  | none => .error (.noAssistant setup.settings.assistants)

/-- The model that a prompt asks for: the option of that name, or the default. -/
def modelOf (setup : Setup) (options : List (String × Value)) : Value :=
  match Entries.get? options "model" with
  | some value => if value.isVoid then .ofText? setup.settings.defaultModel else value
  | none => .ofText? setup.settings.defaultModel

/-- What the assistant gets: the prompt, the options, the model and the instructions of the host. -/
def promptArgs (setup : Setup) (prompt : String) (options : List (String × Value)) :
    List (String × Value) :=
  let args := Entries.putAll [("prompt", .text prompt)] (Entries.erase options "model")
  let model := modelOf setup options
  let args := if model.isNull then args else Entries.put args "model" model
  match setup.metadata.systemPrompt with
  | none => args
  | some system => if system = "" then args else Entries.put args "system" (.text system)

def execSay (setup : Setup) (expr : Expr) (index : Nat) : Run Unit := do
  let text ← evaluated (expr.render (← env))
  say text
  summarize index (setup.redaction.event [("text", .text text)])

def execAsk (setup : Setup) (prompt : Expr) (options : List (String × Expr)) (index : Nat) :
    Run Unit := do
  let env ← env
  let text ← evaluated (prompt.render env)
  let options := Entries.ofList (← evaluated (Expr.evaluateEntries env options))
  let (name, tool) ← checked (assistant setup)
  let args := promptArgs setup text options
  summarize index
    (setup.redaction.event [("tool", .text name), ("prompt", .text text),
      ("model", modelOf setup options)])
  noteCall name (setup.redaction.event args)
  let result ← callTool setup ⟨tool, name, args⟩
  bind Stmt.resultName result.value

def execSet (setup : Setup) (name : String) (expr : Expr) (index : Nat) : Run Unit := do
  let value ← evaluated (expr.evaluate (← env))
  bind name value
  let slot := Entries.get? setup.slots name
  summarize index
    [("name", .text name), ("type", .text value.kind.name), ("persisted", .boolean slot.isSome)]
  match slot with
  | none => pure ()
  | some slot => hosted (setup.memory.write (.set slot.key value))

def execCall (setup : Setup) (name : String) (args : List (String × Expr)) (bindAs : Option String)
    (index : Nat) :
    Run Unit := do
  summarize index [("tool", .text name), ("bind_as", .ofText? bindAs)]
  let tool ← checked (setup.catalogue.require name)
  let args := Entries.ofList (← evaluated (Expr.evaluateEntries (← env) args))
  summarize index
    (setup.redaction.event [("tool", .text name), ("args", .object args),
      ("bind_as", .ofText? bindAs)])
  noteCall name (setup.redaction.entries args)
  let result ← callTool setup ⟨tool, name, args⟩
  match bindAs with
  | none => pure ()
  | some target => bind target result.value

def execRemember (setup : Setup) (key value : Expr) (mode : RememberMode) (index : Nat) :
    Run Unit := do
  let env ← env
  let key ← checked (← evaluated (key.evaluate env)).memoryKey
  let value ← evaluated (value.evaluate env)
  summarize index [("key", .text key), ("mode", .text mode.word), ("type", .text value.kind.name)]
  match mode with
  | .set => hosted (setup.memory.write (.set key value))
  | .append => hosted (setup.memory.write (.append key value))

def execRecollect (setup : Setup) (key : Expr) (bindAs : String) (index : Nat) : Run Unit := do
  let key ← checked (← evaluated (key.evaluate (← env))).memoryKey
  let value ← evaluated (← host (setup.memory.read key))
  bind bindAs value
  summarize index [("key", .text key), ("bind_as", .text bindAs), ("found", .boolean !value.isNull)]

/-- The branch that a condition takes, as records name it. -/
def branchName (condition : Bool) (elseBody : Option (List Stmt)) : String :=
  if condition then "then" else if elseBody.isSome then "else" else "none"

mutual

/-- A statement. -/
def exec (setup : Setup) : Stmt → Run Unit
  | .say expr p => recorded setup.deadline .say p (execSay setup expr)
  | .ask prompt options p => recorded setup.deadline .ask p (execAsk setup prompt options)
  | .set name expr p => recorded setup.deadline .set p (execSet setup name expr)
  | .call tool args bindAs p => recorded setup.deadline .call p (execCall setup tool args bindAs)
  | .branch condition thenBody elseBody p => recorded setup.deadline .branch p fun index => do
    let holds ← evaluated (condition.condition (← env) "Condition of 'if'")
    summarize index [("condition", .boolean holds), ("branch", .text (branchName holds elseBody))]
    if holds then execAll setup thenBody else execElse setup elseBody
  | .loop item collection body p => recorded setup.deadline .loop p fun index => do
    let items ← checked (← evaluated (collection.evaluate (← env))).loopItems
    summarize index [("item", .text item), ("count", .integer items.length)]
    restoring item (forEach (fun value => do bind item value; execAll setup body) items)
  | .remember key value mode p =>
    recorded setup.deadline .remember p (execRemember setup key value mode)
  | .recollect key bindAs p => recorded setup.deadline .recollect p (execRecollect setup key bindAs)

/-- The statements of a block, one after the other. -/
def execAll (setup : Setup) : List Stmt → Run Unit
  | [] => pure ()
  | stmt :: rest => do
    exec setup stmt
    execAll setup rest

/-- The statements of a branch that may be missing. -/
def execElse (setup : Setup) : Option (List Stmt) → Run Unit
  | none => pure ()
  | some body => execAll setup body

end

end Run

end BotScript
