import BotScript.Syntax.Position
import BotScript.Value.Basic

/-!
Expressions. Every node keeps the position that errors about it name; it never takes part in what
the node means.
-/

namespace BotScript

/-- The connectives that join two or more conditions. -/
inductive Junction
  | and
  | or
deriving DecidableEq, Repr

def Junction.word : Junction → String
  | and => "and"
  | or => "or"

mutual

inductive Expr
  | literal (value : Value) (position : Position)
  | list (items : List Expr) (position : Position)
  | object (entries : List (String × Expr)) (position : Position)
  /-- A variable, written with or without a dollar sign. -/
  | reference (name : String) (position : Position)
  /-- Fields of a value, read one after the other. -/
  | property (base : Expr) (path : List String) (position : Position)
  | template (segments : List Segment) (position : Position)
  | contains (left right : Expr) (position : Position)
  | junction (connective : Junction) (operands : List Expr) (position : Position)
  | negation (operand : Expr) (position : Position)
  | equals (left right : Expr) (negated : Bool) (position : Position)
  | concat (parts : List Expr) (position : Position)
  /-- The left side, or the right one when the left one is null or missing. -/
  | coalesce (left right : Expr) (position : Position)

/-- The parts of a text with holes. -/
inductive Segment
  | text (s : String)
  | hole (expr : Expr)

end

instance : Inhabited Expr := ⟨.literal .null .start⟩

namespace Expr

/-- The position that errors about an expression name. -/
def position : Expr → Position
  | literal _ p | list _ p | object _ p | reference _ p | property _ _ p | template _ p |
    contains _ _ p
  | junction _ _ p | negation _ p | equals _ _ _ p | concat _ p | coalesce _ _ p => p

mutual

/-- An expression with every position in it replaced. A hole is blamed on the text that it is cut
from. -/
def relocate (p : Position) : Expr → Expr
  | literal value _ => literal value p
  | list items _ => list (relocateAll p items) p
  | object entries _ => object (relocateEntries p entries) p
  | reference name _ => reference name p
  | property base path _ => property (relocate p base) path p
  | template segments _ => template (relocateSegments p segments) p
  | contains left right _ => contains (relocate p left) (relocate p right) p
  | junction connective operands _ => junction connective (relocateAll p operands) p
  | negation operand _ => negation (relocate p operand) p
  | equals left right negated _ => equals (relocate p left) (relocate p right) negated p
  | concat parts _ => concat (relocateAll p parts) p
  | coalesce left right _ => coalesce (relocate p left) (relocate p right) p

def relocateAll (p : Position) : List Expr → List Expr
  | [] => []
  | expr :: rest => relocate p expr :: relocateAll p rest

def relocateEntries (p : Position) : List (String × Expr) → List (String × Expr)
  | [] => []
  | (key, expr) :: rest => (key, relocate p expr) :: relocateEntries p rest

def relocateSegments (p : Position) : List Segment → List Segment
  | [] => []
  | .text s :: rest => .text s :: relocateSegments p rest
  | .hole expr :: rest => .hole (relocate p expr) :: relocateSegments p rest

end

theorem relocateAll_eq_map (p : Position) (items : List Expr) :
    relocateAll p items = items.map (relocate p) := by
  induction items with
  | nil => rfl
  | cons item rest ih => rw [relocateAll, ih, List.map_cons]

theorem relocateEntries_eq_map (p : Position) (entries : List (String × Expr)) :
    relocateEntries p entries = entries.map fun entry => (entry.1, relocate p entry.2) := by
  induction entries with
  | nil => rfl
  | cons entry rest ih => rw [relocateEntries, ih, List.map_cons]

end Expr

end BotScript
