import BotScript.Memory.Store

/-!
One memory per session, for a limited number of sessions. Opening a session makes it the most recent
one; when there are too many, the one that was opened longest ago is forgotten.
-/

namespace BotScript

/-- Sessions with their memories, the one opened longest ago first. -/
structure Sessions where
  limit : Nat
  /-- There is room for a session. -/
  roomy : 1 ≤ limit
  stores : List (String × Store)

namespace Sessions

/-- The number of sessions that are kept when nothing else is said. -/
def defaultLimit : Nat := 256

/-- No sessions; there must be room for one. -/
def create? (limit : Int) : Option Sessions :=
  if roomy : 1 ≤ limit.toNat then some ⟨limit.toNat, roomy, []⟩ else none

/-- The sessions, the one opened longest ago first. -/
def ids (sessions : Sessions) : List String :=
  Entries.keys sessions.stores

def isLive (sessions : Sessions) (id : String) : Bool :=
  Entries.has sessions.stores id

/-- The memory of a session, empty when it is not live. -/
def store (sessions : Sessions) (id : String) : Store :=
  (Entries.get? sessions.stores id).getD .empty

/-- The last `limit` sessions. -/
def trimmed (limit : Nat) (stores : List (String × Store)) : List (String × Store) :=
  stores.drop (stores.length - limit)

/-- The sessions after one was opened; a session that is not live starts with an empty memory. -/
def visit (sessions : Sessions) (id : String) : Sessions :=
  { sessions with
    stores :=
      trimmed sessions.limit (Entries.erase sessions.stores id ++ [(id, sessions.store id)]) }

/-- The sessions after the memory of one that is live was changed. -/
def write (sessions : Sessions) (id : String) (store : Store) : Sessions :=
  { sessions with stores := Entries.put sessions.stores id store }

/-- The sessions without one. -/
def drop (sessions : Sessions) (id : String) : Sessions :=
  { sessions with stores := Entries.erase sessions.stores id }

end Sessions

end BotScript
