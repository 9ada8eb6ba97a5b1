import BotScript.Host.Limits
import BotScript.Memory.Slot

/-!
Reading and writing the memory that a host shares among runs. Every access is a request of its own
under the limits of the run; nothing is kept from one to the next.
-/

namespace BotScript

/-- How a run reaches the memory. -/
structure MemoryAccess where
  /-- The host has a memory. -/
  connected : Bool
  deadline : Option Deadline
  callLimit : Option Binary64

namespace MemoryAccess

/-- A call as messages about limits name it. -/
def work (call : MemoryCall) : String :=
  s!"memory {call.method} '{call.key}'"

/-- The failure of a call. Errors that runs know pass through, others are told as the memory's. -/
def fault (call : MemoryCall) : HostError → Fault
  | .runtime fault => fault
  | error => .of (.backendFailed call.method call.key error.typeName error.text)

/-- The data that an access gives. Work that is handed back without being awaited is only seen from
outside. -/
def yielded : Yield → Datum
  | .data datum => datum
  | .pending => .foreign "pending"

/-- A call of the memory. -/
def perform (access : MemoryAccess) (call : MemoryCall) : Dialogue (Except Fault Datum) :=
  if access.connected then do
    let result ← Dialogue.guarded access.deadline access.callLimit (work call)
      (Dialogue.query (.memory call))
    return (result.map yielded).mapError (fault call)
  else return .error (.of (.noBackend call.method call.key))

/-- The key that a host gives for a call of a method. -/
def hostKey (access : MemoryAccess) (method : String) : Datum → Except Fault String
  | .text key => .ok key
  | other =>
    .error (.of
      (if access.connected then .foreignKey other.typeName else .noBackend method other.shown))

/-- The value under a key. What the memory gives need not be one. -/
def read (access : MemoryAccess) (key : String) : Dialogue (Except Stop Value) := do
  match ← access.perform (.get key) with
  | .error fault => return .error (.fault fault)
  | .ok datum => return datum.convert.mapError fun obstacle => .escape (.unconvertible obstacle)

/-- A write, whose answer says nothing. -/
def write (access : MemoryAccess) (call : MemoryCall) : Dialogue (Except Fault Unit) := do
  return (← access.perform call).map fun _ => ()

/-- The value of a declared variable, given what is under its key. -/
def orDefault (slot : Slot) (value : Value) : Value :=
  if value.isNull then Slot.defaultValue slot.typeName else value

/-- The values of declared variables, read in the order of their slots. -/
def hydrate (access : MemoryAccess) :
    List (String × Slot) → Dialogue (Except Stop (List (String × Value)))
  | [] => return .ok []
  | (name, slot) :: rest => do
    match ← access.read slot.key with
    | .error stop => return .error stop
    | .ok value =>
      match ← access.hydrate rest with
      | .error stop => return .error stop
      | .ok values => return .ok ((name, orDefault slot value) :: values)

end MemoryAccess

end BotScript
