import BotScript.Memory.Sessions
import Mathlib.Data.List.Nodup
import Mathlib.Data.List.Perm.Subperm

/-! Sessions side by side. As long as there are no more names than there is room for, no session is
forgotten to make room, and what is done with one session leaves the others as they are. -/

namespace BotScript.Sessions

/-- The memory of a session, if it is live. -/
def find? (sessions : Sessions) (id : String) : Option Store :=
  Entries.get? sessions.stores id

theorem store_eq (sessions : Sessions) (id : String) :
    sessions.store id = (sessions.find? id).getD .empty :=
  rfl

/-- Every session is kept once, under one of some names, and there is room for all the names. -/
structure Within (names : List String) (sessions : Sessions) : Prop where
  distinct : Entries.Distinct sessions.stores
  named : ∀ id ∈ sessions.ids, id ∈ names
  room : names.length ≤ sessions.limit

variable {names : List String} {sessions : Sessions} {id other : String}

theorem Within.length_le (within : sessions.Within names) :
    sessions.stores.length ≤ sessions.limit := by
  have fewer : (Entries.keys sessions.stores).length ≤ names.length :=
    (within.distinct.subperm within.named).length_le
  rw [Entries.keys, List.length_map] at fewer
  exact Nat.le_trans fewer within.room

/-! ## Opening a session -/

/-- The sessions when one was opened and none forgotten. -/
def opened (sessions : Sessions) (id : String) : Sessions :=
  { sessions with stores := Entries.erase sessions.stores id ++ [(id, sessions.store id)] }

theorem ids_opened (sessions : Sessions) (id : String) :
    (sessions.opened id).ids = sessions.ids.filter (· ≠ id) ++ [id] :=
  List.map_append.trans (congrArg (· ++ [id]) (Entries.keys_erase _ _))

theorem Within.opened (within : sessions.Within names) (listed : id ∈ names) :
    (sessions.opened id).Within names := by
  refine ⟨?_, ?_, within.room⟩
  · change (sessions.opened id).ids.Nodup
    rw [ids_opened]
    refine List.Nodup.append (within.distinct.filter _) (List.nodup_singleton id) ?_
    intro name kept among
    rw [List.mem_singleton.mp among] at kept
    simp at kept
  · intro name member
    rw [ids_opened] at member
    rcases List.mem_append.mp member with old | new
    · exact within.named name (List.mem_of_mem_filter old)
    · rw [List.mem_singleton.mp new]
      exact listed

/-- Where there is room, no session is forgotten when one is opened. -/
theorem Within.visit_eq (within : sessions.Within names) (listed : id ∈ names) :
    sessions.visit id = sessions.opened id := by
  have fits : (sessions.opened id).stores.length - sessions.limit = 0 :=
    Nat.sub_eq_zero_of_le (within.opened listed).length_le
  have all : trimmed sessions.limit (sessions.opened id).stores = (sessions.opened id).stores := by
    rw [trimmed, fits, List.drop_zero]
  exact congrArg (fun stores => { sessions with stores }) all

theorem find?_opened (sessions : Sessions) (id other : String) :
    (sessions.opened id).find? other = if id = other then some (sessions.store id)
      else sessions.find? other := by
  unfold find? opened
  rw [Entries.get?_append, Entries.get?_erase]
  split
  · rename_i same
    simp [Entries.get?, same]
  · rename_i apart
    simp [Entries.get?, apart]

/-! ## Writing and forgetting -/

theorem find?_write (sessions : Sessions) (id other : String) (store : Store) :
    (sessions.write id store).find? other = if id = other then some store
      else sessions.find? other :=
  Entries.get?_put _ _ _ _

theorem find?_drop (sessions : Sessions) (id other : String) :
    (sessions.drop id).find? other = if id = other then none else sessions.find? other :=
  Entries.get?_erase _ _ _

theorem Within.write (within : sessions.Within names) (listed : id ∈ names) (store : Store) :
    (sessions.write id store).Within names where
  distinct := within.distinct.put id store
  named name member := by
    change name ∈ Entries.keys (Entries.put sessions.stores id store) at member
    rw [Entries.keys_put] at member
    split at member
    · exact within.named name member
    · rcases List.mem_append.mp member with old | new
      · exact within.named name old
      · rw [List.mem_singleton.mp new]
        exact listed
  room := within.room

theorem Within.drop (within : sessions.Within names) (id : String) :
    (sessions.drop id).Within names where
  distinct := by
    change (Entries.keys (Entries.erase sessions.stores id)).Nodup
    rw [Entries.keys_erase]
    exact within.distinct.filter _
  named name member := by
    change name ∈ Entries.keys (Entries.erase sessions.stores id) at member
    rw [Entries.keys_erase] at member
    exact within.named name (List.mem_of_mem_filter member)
  room := within.room

end BotScript.Sessions
