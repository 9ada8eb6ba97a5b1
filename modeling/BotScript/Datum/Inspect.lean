import BotScript.Datum.Basic
import BotScript.Value.Access

/-!
Host data looked at before it is converted. The questions are those that programs ask of values;
data that no value of the language resembles is refused with the name of its type.
-/

namespace BotScript.Datum

namespace Key

/-- Two keys of a host mapping are one key: numbers count by their value, whatever their sort. -/
def same (a b : Key) : Bool :=
  match a.number?, b.number? with
  | some x, some y => x.same y
  | none, none => a = b
  | _, _ => false

/-- A key inside written data. -/
def written : Key → String
  | null => "null"
  | boolean b => if b then "true" else "false"
  | integer n => toString n
  | number x => x.dataText
  | text s => s

end Key

/-- One more entry of a host mapping; an equal key keeps its first form and place. -/
def putEntry : List (Key × Datum) → Key → Datum → List (Key × Datum)
  | [], key, datum => [(key, datum)]
  | (k, d) :: rest, key, datum =>
    if k.same key then (k, datum) :: rest else (k, d) :: putEntry rest key datum

/-- The host mapping with the given entries. -/
def ofPairs (pairs : List (Key × Datum)) : Datum :=
  mapping (pairs.foldl (fun entries pair => putEntry entries pair.1 pair.2) [])

/-- Why host data is no mapping, and no list of the pairs of one. -/
inductive PairFlaw
  | noItems (typeName : String)
  /-- An item of the list has no items of its own. -/
  | noPair (index : Nat)
  | wrongLength (index length : Nat)
deriving DecidableEq, Repr

/-- Why a question about host data has no answer. -/
inductive Refusal
  | trouble (trouble : Trouble)
  /-- The data holds something that has no written form. -/
  | unwritable (typeName : String)
  /-- The data is not of the make that has the ability. -/
  | unable (typeName ability : String)
  | unpaired (flaw : PairFlaw)

/-- The name of the class of a flaw. -/
def PairFlaw.typeName : PairFlaw → String
  | noItems _ | noPair _ => "TypeError"
  | wrongLength .. => "ValueError"

def PairFlaw.message : PairFlaw → String
  | noItems typeName => s!"'{typeName}' object is not iterable"
  | noPair index => s!"cannot convert dictionary update sequence element #{index} to a sequence"
  | wrongLength index length =>
    s!"dictionary update sequence element #{index} has length {length}; 2 is required"

/-- A text; data that counts as missing is the empty one. -/
def word? (datum : Datum) (ability : String) : Except Refusal String :=
  match datum with
  | text s => .ok s
  | other => if other.isVoid then .ok "" else .error (.unable other.typeName ability)

/-- The key and the data that an item of a list gives to a mapping. -/
def pair? (index : Nat) : Datum → Except PairFlaw (Key × Datum)
  | list [first, second] | tuple [first, second] => .ok (first.key, second)
  | mapping [(first, _), (second, _)] => .ok (first, second.datum)
  | list items | tuple items => .error (.wrongLength index items.length)
  | mapping entries => .error (.wrongLength index entries.length)
  | text s =>
    match s.toList with
    | [first, second] => .ok (.text first.toString, text second.toString)
    | chars => .error (.wrongLength index chars.length)
  | _ => .error (.noPair index)

/-- The pairs that the items of a list give. -/
def pairs? : (index : Nat) → List Datum → Except PairFlaw (List (Key × Datum))
  | _, [] => .ok []
  | index, item :: rest => do return (← pair? index item) :: (← pairs? (index + 1) rest)

/-- The entries of a mapping, or the pairs of a list. -/
def entriesOrPairs? : Datum → Except PairFlaw (List (Key × Datum))
  | mapping entries => .ok entries
  | list items | tuple items =>
    (pairs? 0 items).map fun pairs =>
      pairs.foldl (fun entries pair => putEntry entries pair.1 pair.2) []
  | text s => if s = "" then .ok [] else .error (.wrongLength 0 1)
  | other => .error (.noItems other.typeName)

/-- The kind of host data that resembles a value. -/
def kind? : Datum → Except Cause Kind
  | null => .ok .null
  | boolean _ => .ok .boolean
  | integer _ => .ok .number
  | number _ => .ok .number
  | text _ => .ok .string
  | list _ => .ok .array
  | mapping _ => .ok .object
  | other => .error (.unsupported other.typeName)

/-- Two host mappings have the same keys, in any order. -/
def sameKeys (entries others : List (Key × Datum)) : Bool :=
  entries.length = others.length && entries.all fun entry => others.any (·.1.same entry.1)

mutual

/-- Equality of host data. What is refused is met in order, items before the rest of their array;
mappings are asked for their keys before any value. -/
def same? : Datum → Datum → Except Cause Bool
  | list items, other => do
    match ← kind? other, other with
    | _, list others => if items.length = others.length then sameItems? items others else .ok false
    | _, _ => .ok false
  | mapping entries, other => do
    match ← kind? other, other with
    | _, mapping others =>
      if sameKeys entries others then sameEntries? entries others else .ok false
    | _, _ => .ok false
  | null, other => do return (← kind? other) = .null
  | boolean a, other => do
    match ← kind? other, other with
    | _, boolean b => .ok (a = b)
    | _, _ => .ok false
  | text a, other => do
    match ← kind? other, other with
    | _, text b => .ok (a = b)
    | _, _ => .ok false
  | integer n, other => do
    match ← kind? other, other with
    | _, integer m => .ok (n = m)
    | _, number y => .ok (y.eqInt n)
    | _, _ => .ok false
  | number x, other => do
    match ← kind? other, other with
    | _, integer m => .ok (x.eqInt m)
    | _, number y => .ok (x.eq y)
    | _, _ => .ok false
  | other, _ => .error (.unsupported other.typeName)

def sameItems? : List Datum → List Datum → Except Cause Bool
  | item :: items, other :: others => do
    if ← same? item other then sameItems? items others else return false
  | _, _ => .ok true

def sameEntries? : List (Key × Datum) → List (Key × Datum) → Except Cause Bool
  | [], _ => .ok true
  | (key, datum) :: rest, others =>
    match others.find? (·.1.same key) with
    | some other => do
      if ← same? datum other.2 then sameEntries? rest others else return false
    | none => .ok false

end

mutual

/-- The value whose written form is that of the data. -/
def writable? : Datum → Except Refusal Value
  | null => .ok .null
  | boolean b => .ok (.boolean b)
  | integer n => .ok (.integer n)
  | number x => .ok (.number x)
  | text s => .ok (.text s)
  | list items => do return .array (← writableItems? items)
  | tuple items => do return .array (← writableItems? items)
  | mapping entries => do return .object (← writableEntries? entries)
  | other => .error (.unwritable other.typeName)

def writableItems? : List Datum → Except Refusal (List Value)
  | [] => .ok []
  | item :: rest => do return (← writable? item) :: (← writableItems? rest)

def writableEntries? : List (Key × Datum) → Except Refusal (List (String × Value))
  | [] => .ok []
  | (key, datum) :: rest => do return (key.written, ← writable? datum) :: (← writableEntries? rest)

end

/-- The text under the first of some keys that holds one. -/
def firstText? (entries : List (Key × Datum)) : List String → Option String
  | [] => none
  | key :: rest =>
    match field? entries key with
    | some (text s) => some s
    | _ => firstText? entries rest

/-- The text of a text, or of a mapping that holds a message. -/
def messageText? : Datum → Option String
  | text s => some s
  | mapping entries => firstText? entries Value.messageKeys
  | _ => none

/-- The text of host data in output. -/
def shown? (datum : Datum) : Except Refusal String := do
  return (← writable? datum).shown

/-- Host data as messages quote it. -/
def describe? (datum : Datum) (limit : Int) : Except Refusal String := do
  return (← writable? datum).describe limit

/-- Some item equals the needle; what is refused on the way ends the search. -/
def anySame? (needle : Datum) : List Datum → Except Cause Bool
  | [] => .ok false
  | item :: rest => do
    if ← same? item needle then return true else anySame? needle rest

/-- A refusal that has a cause. -/
def refuse (cause : Cause) : Refusal :=
  .trouble (.cause cause)

/-- Whether host data holds other host data. -/
def contains? (haystack needle : Datum) : Except Refusal Bool :=
  match haystack with
  | list items => (anySame? needle items).mapError refuse
  | mapping entries =>
    match messageText? (mapping entries) with
    | some s => do return Text.containsFolded s (← shown? needle)
    | none =>
      match needle with
      | text key => .ok (field? entries key).isSome
      | _ => .ok false
  | text s => do return Text.containsFolded s (← shown? needle)
  | other =>
    match kind? other with
    | .ok kind => .error (refuse (.cannotContain kind))
    | .error cause => .error (refuse cause)

/-- The boolean that host data is. -/
def asBoolean? (datum : Datum) (context : String) : Except Refusal Bool :=
  match datum with
  | boolean b => .ok b
  | other => do
    let kind ← (kind? other).mapError refuse
    .error (refuse (.notBoolean context kind (← describe? other Value.describeLimit)))

/-- The field of host data. -/
def property? (datum : Datum) (field label : String) : Except Refusal Datum :=
  match datum with
  | mapping entries =>
    match field? entries field with
    | some found => .ok found
    | none => .error (refuse (.missingField field (entries.map (·.1.shown)) label))
  | list items =>
    if field = "length" then .ok (integer items.length)
    else if Value.isIndex field then
      match Number.readInt field.toList with
      | .error flaw => .error (.trouble (.numeral (.ofFlaw field flaw)))
      | .ok index =>
        match items[index.toNat]? with
        | some item => .ok item
        | none => .error (refuse (.indexOutOfRange index.toNat label items.length))
    else .error (refuse (.notAnObject field label .array))
  | text s =>
    if field = "length" then .ok (integer s.length)
    else .error (refuse (.notAnObject field label .string))
  | other =>
    match kind? other with
    | .ok kind => .error (refuse (.notAnObject field label kind))
    | .error cause => .error (refuse cause)

end BotScript.Datum
