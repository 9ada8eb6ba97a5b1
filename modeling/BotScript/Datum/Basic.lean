import BotScript.Entries
import BotScript.Number.ExactDecimal
import BotScript.Value.Basic

/-!
Host data: what inputs, tools and memory backends hand to a run. Besides the values of the language
it has tuples, exact numbers, objects of unknown make, tool results, and mappings whose keys need
not be texts.
-/

namespace BotScript

namespace Datum

/-- The keys of a host mapping. -/
inductive Key
  | null
  | boolean (b : Bool)
  | integer (n : Int)
  | number (x : Binary64)
  | text (s : String)
deriving DecidableEq, Repr

end Datum

/-- Host data. -/
inductive Datum
  | null
  | boolean (b : Bool)
  | integer (n : Int)
  | number (x : Binary64)
  | text (s : String)
  | list (items : List Datum)
  | mapping (entries : List (Datum.Key × Datum))
  | tuple (items : List Datum)
  | decimal (x : ExactDecimal)
  | fraction (q : Rat)
  /-- A tool result as tools build it, with parts of any make. -/
  | result (success output data : Datum)
  /-- Any other object; all that is known of it is its text. -/
  | foreign (description : String)
deriving Inhabited

namespace Datum

namespace Key

/-- The number that a key equals, when it is one: true and false count as one and zero. -/
def number? : Key → Option Value
  | boolean b => some (.integer (if b then 1 else 0))
  | integer n => some (.integer n)
  | number x => some (.number x)
  | _ => none

/-- The text that a key becomes. -/
def shown : Key → String
  | null => "None"
  | boolean b => if b then "True" else "False"
  | integer n => toString n
  | number x => x.text
  | text s => s

end Key

/-- A key as data. -/
def Key.datum : Key → Datum
  | null => .null
  | boolean b => .boolean b
  | integer n => .integer n
  | number x => .number x
  | text s => .text s

/-- The key that some data is; what cannot be a key counts as null. -/
def key : Datum → Key
  | boolean b => .boolean b
  | integer n => .integer n
  | number x => .number x
  | text s => .text s
  | _ => .null

/-- The number nearest to a fraction. -/
def fractionNumber (q : Rat) : Binary64 :=
  .ofFraction (q.num < 0) q.num.natAbs q.den

mutual

/-- Host data as a value. Tuples become arrays, exact numbers the nearest double precision number,
keys texts (of keys with one text the later value wins), tool results objects and anything else its
text. -/
def toValue : Datum → Value
  | null => .null
  | boolean b => .boolean b
  | integer n => .integer n
  | number x => .number x
  | text s => .text s
  | list items => .array (toValues items)
  | mapping entries => .object (Entries.ofList (toEntries entries))
  | tuple items => .array (toValues items)
  | decimal x => .number x.toBinary64
  | fraction q => .number (fractionNumber q)
  | result success output data =>
    .object [("success", toValue success), ("output", toValue output), ("data", toValue data)]
  | foreign description => .text description

def toValues : List Datum → List Value
  | [] => []
  | item :: rest => toValue item :: toValues rest

def toEntries : List (Key × Datum) → List (String × Value)
  | [] => []
  | (key, datum) :: rest => (key.shown, toValue datum) :: toEntries rest

end

/-- Why host data is no value. -/
inductive Obstacle
  /-- An exact decimal that asks to be noticed. -/
  | signal
  /-- A fraction that is too large for a double precision number. -/
  | overflow
deriving DecidableEq, Repr

namespace Obstacle

/-- The name of the class of errors. -/
def typeName : Obstacle → String
  | signal => "ValueError"
  | overflow => "OverflowError"

def message : Obstacle → String
  | signal => "cannot convert signaling NaN to float"
  | overflow => "integer division result too large for a float"

end Obstacle

mutual

/-- The first part of host data that is no value. -/
def obstacle? : Datum → Option Obstacle
  | decimal (.nan _ true _) => some .signal
  | fraction q => if fractionNumber q matches .infinite _ then some .overflow else none
  | list items => itemsObstacle? items
  | tuple items => itemsObstacle? items
  | mapping entries => entriesObstacle? entries
  | result success output data => (obstacle? success).or ((obstacle? output).or (obstacle? data))
  | _ => none

def itemsObstacle? : List Datum → Option Obstacle
  | [] => none
  | item :: rest => (obstacle? item).or (itemsObstacle? rest)

def entriesObstacle? : List (Key × Datum) → Option Obstacle
  | [] => none
  | (_, datum) :: rest => (obstacle? datum).or (entriesObstacle? rest)

end

/-- Host data as a value, unless some part of it is none. -/
def convert (datum : Datum) : Except Obstacle Value :=
  match datum.obstacle? with
  | some obstacle => .error obstacle
  | none => .ok datum.toValue

/-- The name of the host's type of some data, as messages give it. -/
def typeName : Datum → String
  | null => "NoneType"
  | boolean _ => "bool"
  | integer _ => "int"
  | number _ => "float"
  | text _ => "str"
  | list _ => "list"
  | mapping _ => "dict"
  | tuple _ => "tuple"
  | decimal _ => "Decimal"
  | fraction _ => "Fraction"
  | result .. => "ToolResult"
  | foreign _ => "Opaque"

/-- Data that counts as missing where something else can stand for it. -/
def isVoid : Datum → Bool
  | null | boolean false | text "" | list [] | tuple [] | mapping [] => true
  | integer n => n = 0
  | number x => x.eq .zero
  | fraction q => q.num = 0
  | decimal x => x.isZero
  | _ => false

/-- The value under a text key of a host mapping. -/
def field? (entries : List (Key × Datum)) (name : String) : Option Datum :=
  Entries.get? entries (.text name)

mutual

/-- A value as host data. -/
def ofValue : Value → Datum
  | .null => null
  | .boolean b => boolean b
  | .integer n => integer n
  | .number x => number x
  | .text s => text s
  | .array items => list (ofValues items)
  | .object entries => mapping (ofEntries entries)

def ofValues : List Value → List Datum
  | [] => []
  | item :: rest => ofValue item :: ofValues rest

def ofEntries : List (String × Value) → List (Key × Datum)
  | [] => []
  | (key, value) :: rest => (.text key, ofValue value) :: ofEntries rest

end

mutual

/-- The value that host data is already, when nothing in it needs conversion. -/
def value? : Datum → Option Value
  | null => some .null
  | boolean b => some (.boolean b)
  | integer n => some (.integer n)
  | number x => some (.number x)
  | text s => some (.text s)
  | list items => (values? items).map .array
  | mapping entries => (entries? entries).map .object
  | _ => none

def values? : List Datum → Option (List Value)
  | [] => some []
  | item :: rest => do return (← value? item) :: (← values? rest)

def entries? : List (Key × Datum) → Option (List (String × Value))
  | [] => some []
  | (.text key, datum) :: rest => do return (key, ← value? datum) :: (← entries? rest)
  | _ => none

end

end Datum

end BotScript
