import BotScript.Number.Binary64

/-!
Values of the language. Numbers are integers of any size or double precision numbers; objects keep
the order in which their keys were written.
-/

namespace BotScript

/-- A value. -/
inductive Value
  | null
  | boolean (b : Bool)
  | integer (n : Int)
  | number (x : Binary64)
  | text (s : String)
  | array (items : List Value)
  | object (entries : List (String × Value))
deriving Inhabited

/-- The kinds that programs and messages distinguish; both sorts of numbers are one kind. -/
inductive Kind
  | null
  | boolean
  | number
  | string
  | array
  | object
deriving DecidableEq, Repr

namespace Kind

/-- The name of a kind in messages and step summaries. -/
def name : Kind → String
  | null => "null"
  | boolean => "boolean"
  | number => "number"
  | string => "string"
  | array => "array"
  | object => "object"

end Kind

namespace Value

def kind : Value → Kind
  | null => .null
  | boolean _ => .boolean
  | integer _ => .number
  | number _ => .number
  | text _ => .string
  | array _ => .array
  | object _ => .object

def isNull : Value → Bool
  | null => true
  | _ => false

/-- A text that may be missing. -/
def ofText? : Option String → Value
  | none => null
  | some s => text s

end Value

end BotScript
