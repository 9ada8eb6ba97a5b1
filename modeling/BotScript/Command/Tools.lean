import BotScript.Text.Quoted
import BotScript.Tool.Catalogue

/-!
Tools that commands load by the name of a module and a name within it.
-/

namespace BotScript

/-- Why tools cannot be loaded. -/
inductive LoadProblem
  | unavailable (reason : String)
  /-- What has the name is no list of tools, but of the given type. -/
  | notAList (typeName : String)
  /-- The name of the module says where it lies beside another one, but not beside which. -/
  | relative (moduleName : String)
deriving DecidableEq, Repr

/-- A module. A name in it that stands for no tools is given with the type of what it stands for. -/
structure ToolModule where
  name : String
  contents : List (String × Except String (List Offer))

namespace ToolModule

/-- The tools that one of some modules has under a name. Modules hold no other modules. -/
def load (modules : List ToolModule) (moduleName name : String) : Except LoadProblem (List Offer) :=
  match moduleName.splitOn "." with
  | [] | "" :: _ => .error (.relative moduleName)
  | outermost :: within =>
    match modules.find? (·.name = outermost), within with
    | none, _ => .error (.unavailable s!"No module named {Text.quoted outermost}")
    | some _, inner :: _ =>
      let wanted := Text.quoted s!"{outermost}.{inner}"
      .error (.unavailable s!"No module named {wanted}; {Text.quoted outermost} is not a package")
    | some found, [] =>
      match Entries.get? found.contents name with
      | none => .error (.unavailable s!"module '{moduleName}' has no attribute '{name}'")
      | some (.error typeName) => .error (.notAList typeName)
      | some (.ok offers) => .ok offers

end ToolModule

end BotScript
