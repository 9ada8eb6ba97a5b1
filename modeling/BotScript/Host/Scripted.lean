import BotScript.Host.Dialogue
import BotScript.Memory.Private
import BotScript.Value.Shown

/-!
A host that follows a script. Its clock stands still unless a script moves it, its tools and its
memory do what the script says, and it remembers what it was asked. With it a run can be rehearsed
and repeated exactly.
-/

namespace BotScript

/-- How scripted work ends. -/
inductive Ending
  | returns (datum : Datum)
  /-- The arguments are given back, with their text behind a lead. -/
  | echoes (lead : String)
  | raises (error : HostError)
  | withdraws

/-- Scripted work: the clock moves, the run is cancelled, and the work hangs or ends. -/
structure Action where
  advance : Option Binary64
  cancel : Bool
  hang : Bool
  ending : Ending

/-- What a tool does that has no script. -/
def Action.agreeable : Action where
  advance := none
  cancel := false
  hang := false
  ending := .returns (.mapping [(.text "success", .boolean true), (.text "output", .text "ok")])

/-- A tool with its script. The call numbered `i` follows the action numbered `i`, or the last
one. -/
structure ToolScript where
  offer : Offer
  /-- The tool hands its work back to be awaited. -/
  handsBack : Bool
  /-- Something does the work of the tool. -/
  handled : Bool
  actions : List Action

/-- The scripts of a memory's methods; a method without one works. -/
structure MemoryScript where
  get : Option Action
  set : Option Action
  append : Option Action

/-- The script of a memory call's method, if it has one. -/
def MemoryScript.action? (script : MemoryScript) : MemoryCall → Option Action
  | .get _ => script.get
  | .set .. => script.set
  | .append .. => script.append

/-- What the listener of a run does when it is told about a statement. -/
inductive Listener
  | absent
  | attentive
  /-- It raises an error after it has listened. -/
  | failing
deriving DecidableEq, Repr

/-- A scripted host. -/
structure World where
  clock : Binary64
  /-- Runs can be cancelled. -/
  cancellable : Bool
  cancelled : Bool
  tools : List ToolScript
  /-- How often each tool was called. -/
  counts : List Nat
  toolCalls : List (String × List (String × Value))
  memory : Store
  memoryScript : MemoryScript
  memoryCalls : List MemoryCall
  listener : Listener
  /-- The run is cancelled when the listener has heard of this many statements. -/
  cancelAfter : Option Nat
  heard : List Step

namespace World

/-- A host at rest. -/
def still (tools : List ToolScript) (memory : Store) (script : MemoryScript) : World where
  clock := .zero
  cancellable := false
  cancelled := false
  tools := tools
  counts := tools.map fun _ => 0
  toolCalls := []
  memory := memory
  memoryScript := script
  memoryCalls := []
  listener := .absent
  cancelAfter := none
  heard := []

/-- A host at rest whose memory is empty and works. -/
def bare (tools : List ToolScript) : World :=
  still tools .empty ⟨none, none, none⟩

/-- The host when its run is to be cancelled. -/
def cancel (world : World) : World :=
  { world with cancelled := world.cancelled || world.cancellable }

/-- The clock moved. -/
def advance (world : World) (seconds : Binary64) : World :=
  { world with clock := world.clock.add seconds }

/-- The answer of a tool that gives its arguments back. -/
def echo (lead : String) (args : List (String × Value)) : Datum :=
  .mapping [
    (.text "success", .boolean true),
    (.text "output", .text (lead ++ (Value.object args).shown)),
    (.text "data", Datum.ofValue (.object args))]

/-- The end of scripted work. -/
def finish (args : List (String × Value)) : Ending → Completion
  | .returns datum => .returned datum
  | .echoes lead => .returned (echo lead args)
  | .raises error => .raised error
  | .withdraws => .withdrawn

/-- Scripted work done. -/
def act (world : World) (action : Action) (args : List (String × Value)) : Completion × World :=
  let world := (action.advance.map world.advance).getD world
  let world := if action.cancel then world.cancel else world
  (if action.hang then .hung else finish args action.ending, world)

/-- The action of a tool's call with a number. -/
def actionOf (script : ToolScript) (count : Nat) : Action :=
  (script.actions[min count (script.actions.length - 1)]?).getD .agreeable

/-- The error of a tool that nothing handles. -/
def unhandled (tool : Tool) : HostError :=
  .other "NotImplementedError" s!"Tool '{tool.name}' has no handler"

/-- A tool at work. -/
def work (world : World) (tool : Tool) (script : ToolScript) (args : List (String × Value)) :
    Completion × World :=
  let count := (world.counts[tool.index]?).getD 0
  let world := { world with
    counts := world.counts.set tool.index (count + 1)
    toolCalls := world.toolCalls ++ [(tool.name, args)] }
  world.act (actionOf script count) args

/-- The arguments of the last call. -/
def lastArgs (world : World) : List (String × Value) :=
  (world.toolCalls.getLast?.map Prod.snd).getD []

/-- A tool is called. One that hands its work back starts all the same. -/
def callTool (world : World) (tool : Tool) (args : List (String × Value)) : Completion × World :=
  match world.tools[tool.index]? with
  | none => (.raised (unhandled tool), world)
  | some script =>
    if !script.handled then (.raised (unhandled tool), world)
    else if script.handsBack then
      (.pending, { world with toolCalls := world.toolCalls ++ [(tool.name, args)] })
    else world.work tool script args

/-- The work that a tool handed back is awaited. -/
def awaitTool (world : World) (tool : Tool) : Completion × World :=
  match world.tools[tool.index]? with
  | none => (.raised (unhandled tool), world)
  | some script =>
    let count := (world.counts[tool.index]?).getD 0
    let world' := { world with counts := world.counts.set tool.index (count + 1) }
    world'.act (actionOf script count) world.lastArgs

/-- The memory is called. -/
def callMemory (world : World) (call : MemoryCall) : Completion × World :=
  let world := { world with memoryCalls := world.memoryCalls ++ [call] }
  match world.memoryScript.action? call with
  | some action => world.act action []
  | none =>
    (.returned (world.memory.serve call).1, { world with memory := (world.memory.serve call).2 })

/-- The listener is told about a statement. -/
def hear (world : World) (step : Step) : Bool × World :=
  if world.listener = .absent then (true, world)
  else
    let world := { world with heard := world.heard ++ [step] }
    let world := if world.cancelAfter = some world.heard.length then world.cancel else world
    (world.listener ≠ .failing, world)

/-- The answer to a query. -/
def answer (query : Query) (world : World) : query.Answer × World :=
  match query with
  | .observe => (⟨world.clock, world.cancelled⟩, world)
  | .tool tool args => world.callTool tool args
  | .awaitTool tool => world.awaitTool tool
  | .memory call => world.callMemory call
  | .stepEnded step => world.hear step

/-- The world as the host of a run. -/
def host : Host World := ⟨answer⟩

end World

end BotScript
