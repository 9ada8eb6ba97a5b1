import BotScript.Entries
import BotScript.Fault

/-!
The tools of a run. A host offers objects, each of which must be a tool; tools are found by their
names and, where no tool has the name, by their capabilities.
-/

namespace BotScript

/-- An object that a host offers as a tool. -/
structure Offer where
  name : Option String
  capability : Option String
  /-- The object can be run. -/
  runnable : Bool
  /-- The object as messages show it. -/
  description : String
  /-- The text that the object is, if it is one. It can stand for a tool in checks but cannot be
  run. -/
  text : Option String
deriving DecidableEq, Repr

/-- A text in the place of a tool. -/
def Offer.ofText (s : String) : Offer :=
  ⟨none, none, false, Text.quoted s, some s⟩

/-- A tool that is described by a record of three texts. -/
def Offer.ofRecord (name capability description : String) : Offer :=
  ⟨name, capability, true,
    s!"ToolDescriptor(name={Text.quoted name}, capability={Text.quoted capability}, " ++
      s!"description={Text.quoted description})",
    none⟩

/-- The names under which programs may call the object, as far as it has any. -/
def Offer.names (offer : Offer) : List String :=
  offer.text.toList ++ (offer.name.toList ++ offer.capability.toList).filter (· ≠ "")

/-- A tool, and its place in the list that the host offers. -/
structure Tool where
  index : Nat
  name : String
  capability : Option String
deriving DecidableEq, Repr

/-- The tool that an object in the list is, if it has a name and can be run. -/
def Offer.tool? (offer : Offer) (index : Nat) : Except Escape Tool :=
  match offer.name with
  | none => .error (.notATool offer.description)
  | some name =>
    if name ≠ "" && offer.runnable then .ok ⟨index, name, offer.capability⟩
    else .error (.notATool offer.description)

/-- The tools in a list of offers, from a place in it on. -/
def toolsFrom (index : Nat) : List Offer → Except Escape (List Tool)
  | [] => .ok []
  | offer :: rest => do return (← offer.tool? index) :: (← toolsFrom (index + 1) rest)

/-- Tools by the names under which they are found. -/
structure Catalogue where
  entries : List (String × Tool)

namespace Catalogue

def get? (catalogue : Catalogue) (name : String) : Option Tool :=
  Entries.get? catalogue.entries name

def names (catalogue : Catalogue) : List String :=
  Entries.keys catalogue.entries

/-- The catalogue with a tool under a name; an empty name stands for the tool's own. -/
def register (catalogue : Catalogue) (name : String) (tool : Tool) : Catalogue :=
  ⟨Entries.put catalogue.entries (if name = "" then tool.name else name) tool⟩

/-- The name and the tool that a capability gives, unless it is missing or empty. -/
def byCapability? (tool : Tool) : Option (String × Tool) :=
  match tool.capability with
  | none => none
  | some capability => if capability = "" then none else some (capability, tool)

/-- The catalogue of some tools. Names are entered after all capabilities, so they win over
these. -/
def ofTools (tools : List Tool) : Catalogue :=
  ⟨Entries.ofList (tools.filterMap byCapability? ++ tools.map fun tool => (tool.name, tool))⟩

/-- The catalogue of the objects that a host offers. -/
def ofOffers (offers : List Offer) : Except Escape Catalogue := do
  return ofTools (← toolsFrom 0 offers)

/-- The tool under a name that must be there. -/
def require (catalogue : Catalogue) (name : String) : Except Cause Tool :=
  match catalogue.get? name with
  | some tool => .ok tool
  | none => .error (.unknownTool name catalogue.names)

end Catalogue

end BotScript
