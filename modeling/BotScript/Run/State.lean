import BotScript.Evaluation.Expr
import BotScript.Host.Narrative
import BotScript.Memory.Calls
import BotScript.Report.Journal
import BotScript.Report.Redaction

/-!
The state of a run and the steps that change it. A run asks its host, may stop at any point, and
keeps its state when it stops, so a failed run shows everything up to its failure.
-/

namespace BotScript

/-- What is fixed for a run. -/
structure Setup where
  settings : Settings
  redaction : Redaction
  metadata : Metadata
  catalogue : Catalogue
  /-- The slots of the declared variables. -/
  slots : List (String × Slot)
  deadline : Option Deadline
  /-- The host has a memory. -/
  connected : Bool

/-- How the run reaches the memory. -/
def Setup.memory (setup : Setup) : MemoryAccess :=
  ⟨setup.connected, setup.deadline, setup.settings.toolTimeout⟩

/-- What changes during a run. -/
structure RunState where
  env : Environment
  output : List String
  steps : List Step
  transcript : List Utterance
  journal : List Event
  /-- The bot that was chosen. -/
  bot : Option String
  /-- The place of the handler that was chosen. -/
  handler : Option Nat

/-- The state in which a run starts. -/
def RunState.initial (env : Environment) : RunState :=
  ⟨env, [], [], [], [], none, none⟩

/-- How a run stands when it asks its host: its state, and the bindings that the open loops keep to
put them back, the innermost loop's first. -/
structure Standing where
  state : RunState
  aside : List Environment.Saved

/-- The standing of a part inside a loop that keeps a binding. -/
def Standing.inside (saved : Environment.Saved) (standing : Standing) : Standing :=
  { standing with aside := standing.aside ++ [saved] }

/-- A part of a run. -/
abbrev Run (α : Type) := ExceptT Stop (StateT RunState (Narrative Standing)) α

namespace Run

variable {α : Type}

/-- A part of a run, from a state to its outcome and the state behind it, with how the run stands at
each question. -/
def narrate (part : Run α) (state : RunState) : Narrative Standing (Except Stop α × RunState) :=
  part.run.run state

/-- A part of a run, from a state to its outcome and the state behind it. -/
def outcome (part : Run α) (state : RunState) : Dialogue (Except Stop α × RunState) :=
  (part.narrate state).plain

/-- A question to the host. -/
def host (dialogue : Dialogue α) : Run α := do
  let state ← get
  ExceptT.lift (StateT.lift (.of ⟨state, []⟩ dialogue))

/-- The outcome of an evaluation. -/
def evaluated : Except Stop α → Run α
  | .ok a => pure a
  | .error stop => throw stop

/-- A failure that is not blamed on a place yet. -/
def fail (cause : Cause) : Run α :=
  throw (.fault (.of cause))

/-- A result or the cause of a failure. -/
def checked : Except Cause α → Run α
  | .ok a => pure a
  | .error cause => fail cause

/-- A question to the host that may come to a failure. -/
def hosted (dialogue : Dialogue (Except Fault α)) : Run α := do
  match ← host dialogue with
  | .ok a => pure a
  | .error fault => throw (.fault fault)

/-- The variables as they are. -/
def env : Run Environment := do
  return (← get).env

def bind (name : String) (value : Value) : Run Unit :=
  modify fun state => { state with env := state.env.bind name value }

def tell (event : Event) : Run Unit :=
  modify fun state => { state with journal := state.journal ++ [event] }

/-- Something is said. -/
def say (text : String) : Run Unit :=
  modify fun state =>
    { state with output := state.output ++ [text], transcript := state.transcript ++ [.said text] }

/-- A call is noted in the transcript. -/
def noteCall (tool : String) (args : List (String × Value)) : Run Unit :=
  modify fun state => { state with transcript := state.transcript ++ [.called tool args] }

/-- The outcome of a part, kept instead of stopping. -/
def attempt (part : Run α) : Run (Except Stop α) :=
  ExceptT.lift part.run

/-- A part inside a loop that keeps a binding. -/
def inside (saved : Environment.Saved) (part : Run α) : Run α :=
  ExceptT.mk fun state => (part.narrate state).within (Standing.inside saved)

/-- A part after which a variable has its earlier binding again, however the part ends. -/
def restoring (name : String) (part : Run α) : Run α := do
  let saved := (← env).save name
  let result ← attempt (inside saved part)
  modify fun state => { state with env := state.env.restore saved }
  evaluated result

/-- A part done for each item, from the first to the last. -/
def forEach {β : Type} (part : β → Run Unit) : List β → Run Unit
  | [] => pure ()
  | item :: rest => do
    part item
    forEach part rest

/-! ## Records of statements -/

/-- The run may go on to its next statement. -/
def checkpoint (deadline : Option Deadline) : Run Unit := do
  checked (checkMoment deadline (← host (Dialogue.query .observe)) .betweenStatements)

/-- A new record of a statement; its number is the count of those before. -/
def begin (kind : StepKind) (p : Position) : Run Nat := do
  let index := (← get).steps.length
  modify fun state => { state with steps := state.steps ++ [⟨index, kind, p.line, [], .running⟩] }
  return index

/-- The record of a statement with its summary replaced. -/
def summarize (index : Nat) (summary : List (String × Value)) : Run Unit :=
  modify fun state =>
    { state with steps := state.steps.modify index fun step => { step with summary } }

/-- The outcome that the end of a statement at a position gives to its record. Only what results
report is told. -/
def outcomeOf (p : Position) : Except Stop Unit → StepOutcome
  | .ok () => .ok
  | .error (.fault fault) => .ofFault (fault.locate p)
  | .error (.escape _) => .running

/-- A statement ends: its record is completed, counted and shown to the host. -/
def finish (index : Nat) (outcome : StepOutcome) : Run Unit := do
  modify fun state =>
    { state with steps := state.steps.modify index fun step => { step with outcome } }
  match (← get).steps[index]? with
  | none => pure ()
  | some step =>
    tell (.stepEnded step.kind (outcome = .ok))
    let told ← host (Dialogue.query (.stepEnded step))
    if told then pure () else tell .listenerRaised

/-- A statement with its record. What stops it is blamed on its position unless a place within is
known. -/
def recorded (deadline : Option Deadline) (kind : StepKind) (p : Position)
    (statement : Nat → Run Unit) :
    Run Unit := do
  checkpoint deadline
  let index ← begin kind p
  let result ← attempt (statement index)
  finish index (outcomeOf p result)
  evaluated (result.mapError (Stop.locate p))

end Run

end BotScript
