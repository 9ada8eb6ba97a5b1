import BotScript.Datum.Basic

/-!
A key-value memory that holds host data. Appending makes a list of what is there: nothing or null
becomes a list of the new item, a list grows at its end, anything else becomes the first of two
items.
-/

namespace BotScript

/-- A memory; its keys keep the order in which they were first written. -/
structure Store where
  entries : List (String × Datum)

namespace Store

def empty : Store := ⟨[]⟩

/-- The data under a key, null when there is none. -/
def get (store : Store) (key : String) : Datum :=
  (Entries.get? store.entries key).getD .null

def set (store : Store) (key : String) (datum : Datum) : Store :=
  ⟨Entries.put store.entries key datum⟩

/-- What is under a key after one more item was appended to what was there. -/
def extended (existing item : Datum) : Datum :=
  match existing with
  | .null => .list [item]
  | .list items => .list (items ++ [item])
  | other => .list [other, item]

def append (store : Store) (key : String) (item : Datum) : Store :=
  store.set key (extended (store.get key) item)

/-- Everything in the memory as one mapping. -/
def snapshot (store : Store) : Datum :=
  .mapping (store.entries.map fun entry => (.text entry.1, entry.2))

theorem get_set (store : Store) (key other : String) (datum : Datum) :
    (store.set key datum).get other = if key = other then datum else store.get other := by
  unfold get set
  rw [Entries.get?_put]
  split <;> rfl

theorem get_append (store : Store) (key other : String) (item : Datum) :
    (store.append key item).get other = if key = other then extended (store.get key) item
      else store.get other :=
  get_set store key other _

end Store

end BotScript
