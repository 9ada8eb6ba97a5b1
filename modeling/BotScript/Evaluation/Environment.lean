import BotScript.Datum.Basic
import BotScript.Fault

/-!
The variables of a run. A name written with a dollar sign and the bare name are one variable. A loop
saves the binding of its item before it starts and puts it back when it ends, however it ends.
-/

namespace BotScript

/-- The variables, in the order in which they were first bound. -/
structure Environment where
  bindings : List (String × Value)

namespace Environment

def empty : Environment := ⟨[]⟩

/-- The variable that a name denotes: one dollar sign in front does not count. -/
def variableName (name : String) : String :=
  match name.toList with
  | '$' :: rest => String.ofList rest
  | _ => name

def get? (env : Environment) (name : String) : Option Value :=
  Entries.get? env.bindings (variableName name)

def has (env : Environment) (name : String) : Bool :=
  (env.get? name).isSome

/-- The environment in which a name has a value. -/
def bind (env : Environment) (name : String) (value : Value) : Environment :=
  ⟨Entries.put env.bindings (variableName name) value⟩

/-- The variables that are bound. -/
def names (env : Environment) : List String :=
  Entries.keys env.bindings

/-- The value of a variable. -/
def resolve (env : Environment) (name : String) : Except Cause Value :=
  match env.get? name with
  | some value => .ok value
  | none => .error (.unbound (variableName name) env.names)

/-- Host data bound one after the other. -/
def bindAll (env : Environment) : List (String × Datum) → Except Datum.Obstacle Environment
  | [] => .ok env
  | (name, datum) :: rest => do bindAll (env.bind name (← datum.convert)) rest

/-- The binding that a variable has at some moment. -/
structure Saved where
  name : String
  binding : Option Value

/-- The binding of a variable, kept to be restored. -/
def save (env : Environment) (name : String) : Saved :=
  ⟨variableName name, env.get? name⟩

/-- The environment with a kept binding put back. -/
def restore (env : Environment) (saved : Saved) : Environment :=
  match saved.binding with
  | some value => ⟨Entries.put env.bindings saved.name value⟩
  | none => ⟨Entries.erase env.bindings saved.name⟩

/-- All variables as one object. -/
def snapshot (env : Environment) : Value :=
  .object env.bindings

theorem get?_bind (env : Environment) (name other : String) (value : Value) :
    (env.bind name value).get? other =
      if variableName name = variableName other then some value else env.get? other :=
  Entries.get?_put env.bindings (variableName name) (variableName other) value

/-- What a variable is bound to does not matter when its binding is put back. -/
theorem restore_bind (env : Environment) {saved : Saved} {name : String}
    (same : saved.name = variableName name) (value : Value) :
    (env.bind name value).restore saved = env.restore saved := by
  unfold restore
  split
  · simp [bind, same, Entries.put_put]
  · simp [bind, same, Entries.erase_put]

end Environment

end BotScript
