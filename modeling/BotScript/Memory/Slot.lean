import BotScript.Metadata
import BotScript.Syntax.Program
import BotScript.Text.Casing

/-!
The keys under which declared variables are kept. A key names the scope, who owns it and the
variable, so owners and scopes do not meet.
-/

namespace BotScript

/-- Where a declared variable is kept. -/
structure Slot where
  name : String
  scope : Scope
  key : String
  typeName : String

namespace Slot

/-- The owner of user variables when no user is known. -/
def anonymousOwner : String := "anonymous"

/-- Who owns the variables of a scope. -/
def owner (metadata : Metadata) : Scope → String
  | .session => metadata.botId
  | .user =>
    match metadata.userId with
    | none => anonymousOwner
    | some id => if id = "" then anonymousOwner else id

/-- The key of a variable in a scope. -/
def scopedKey (metadata : Metadata) (scope : Scope) (name : String) : String :=
  s!"{scope.name}:{owner metadata scope}:{name}"

/-- The slot of a declared variable. -/
def ofVariable (metadata : Metadata) (scope : Scope) (name typeName : String) : Slot :=
  ⟨name, scope, scopedKey metadata scope name, typeName⟩

/-- The slots of some memory blocks. A name declared twice has the slot of its last declaration, in
the place of its first. -/
def ofBlocks (metadata : Metadata) (blocks : List MemoryBlock) : List (String × Slot) :=
  Entries.ofList (blocks.flatMap fun block =>
    block.declarations.map fun declared =>
      (declared.name, ofVariable metadata block.scope declared.name declared.typeName))

/-- The value of a declared variable that the memory does not hold. -/
def defaultValue (typeName : String) : Value :=
  let word := Text.lower typeName
  if word = "string" || word = "str" then .text ""
  else if word = "number" || word = "int" then .integer 0
  else if word = "float" then .number .zero
  else if word = "bool" || word = "boolean" then .boolean false
  else if word = "array" || word = "list" then .array []
  else if word = "object" || word = "map" then .object []
  else .null

end Slot

end BotScript
