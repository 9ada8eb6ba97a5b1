import BotScript.Check.Mentions
import BotScript.Memory.Slot

/-! The slots of declared variables. No two variables of a bot share a key, and of several
declarations of one name the last one counts. -/

namespace BotScript

namespace Slot

variable {metadata : Metadata} {blocks : List MemoryBlock} {name other : String} {slot : Slot}

/-- A key names the scope, the owner and the variable. -/
theorem scopedKey_eq (metadata : Metadata) (scope : Scope) (name : String) :
    scopedKey metadata scope name = scope.name ++ ":" ++ owner metadata scope ++ ":" ++ name := by
  unfold scopedKey
  simp [toString]

/-- The keys of variables with different names differ, whatever their scopes are. -/
theorem scopedKey_injective {scope scope' : Scope}
    (same : scopedKey metadata scope name = scopedKey metadata scope' other) :
    name = other := by
  rw [scopedKey_eq, scopedKey_eq] at same
  by_cases one : scope = scope'
  · subst one
    have chars := congrArg String.toList same
    simp only [String.toList_append, List.append_right_inj] at chars
    exact String.toList_inj.mp chars
  · -- the first letters of the scopes differ
    have first := congrArg (fun key => key.toList.head?) same
    cases scope <;> cases scope' <;> simp [Scope.name] at first one

/-- Every slot has the key of its variable. -/
theorem key_of_get? (found : Entries.get? (ofBlocks metadata blocks) name = some slot) :
    slot.key = scopedKey metadata slot.scope name := by
  have listed := Entries.mem_ofList (Entries.mem_of_get? found)
  obtain ⟨block, -, inside⟩ := List.mem_flatMap.mp listed
  obtain ⟨declared, -, same⟩ := List.mem_map.mp inside
  obtain ⟨rfl, rfl⟩ := Prod.mk.inj same
  rfl

/-- No two variables share a key. -/
theorem key_injective {slot' : Slot}
    (found : Entries.get? (ofBlocks metadata blocks) name = some slot)
    (found' : Entries.get? (ofBlocks metadata blocks) other = some slot')
    (same : slot.key = slot'.key) : name = other := by
  rw [key_of_get? found, key_of_get? found'] at same
  exact scopedKey_injective same

end Slot

/-- The declarations of all memory blocks of a bot, with their scopes, in the order of the text. -/
def Bot.declarations (bot : Bot) : List (Scope × MemoryVariable) :=
  bot.memory.flatMap fun block => block.declarations.map fun declared => (block.scope, declared)

/-- The slot that the last declaration of a name gives it. -/
def Bot.lastSlot? (bot : Bot) (metadata : Metadata) (name : String) : Option Slot :=
  (bot.declarations.filter (·.2.name = name)).getLast?.map fun declared =>
    Slot.ofVariable metadata declared.1 name declared.2.typeName

theorem Slot.get?_ofBlocks (metadata : Metadata) (bot : Bot) (name : String) :
    Entries.get? (ofBlocks metadata bot.memory) name = bot.lastSlot? metadata name := by
  have pairs : ofBlocks metadata bot.memory = Entries.ofList (bot.declarations.map fun declared =>
      (declared.2.name, ofVariable metadata declared.1 declared.2.name declared.2.typeName)) := by
    simp [ofBlocks, Bot.declarations, List.map_flatMap, Function.comp_def]
  rw [pairs, Entries.get?_ofList, List.filter_map, List.getLast?_map, Option.map_map, Bot.lastSlot?]
  refine Option.map_congr fun declared last => ?_
  have named := (List.mem_filter.mp (List.mem_of_getLast? last)).2
  obtain rfl := of_decide_eq_true named
  rfl

/-- The slots are those of the declared names. -/
theorem Slot.mem_memoryNames {metadata : Metadata} {bot : Bot} {name : String} :
    name ∈ bot.memoryNames ↔ ∃ slot,
      Entries.get? (ofBlocks metadata bot.memory) name = some slot := by
  constructor
  · intro member
    obtain ⟨block, first, inside⟩ := List.mem_flatMap.mp member
    obtain ⟨declared, second, same⟩ := List.mem_map.mp inside
    have listed : (block.scope, declared) ∈ bot.declarations.filter (·.2.name = name) := by
      refine List.mem_filter.mpr ⟨?_, decide_eq_true same⟩
      exact List.mem_flatMap.mpr ⟨block, first, List.mem_map_of_mem second⟩
    rw [get?_ofBlocks, Bot.lastSlot?]
    cases last : (bot.declarations.filter (·.2.name = name)).getLast? with
    | none =>
      rw [List.getLast?_eq_none_iff.mp last] at listed
      cases listed
    | some found => exact ⟨_, rfl⟩
  · rintro ⟨slot, found⟩
    have listed := Entries.mem_ofList (Entries.mem_of_get? found)
    obtain ⟨block, first, inside⟩ := List.mem_flatMap.mp listed
    obtain ⟨declared, second, same⟩ := List.mem_map.mp inside
    exact List.mem_flatMap.mpr ⟨block, first,
      List.mem_map.mpr ⟨declared, second, (Prod.mk.inj same).1⟩⟩

end BotScript
