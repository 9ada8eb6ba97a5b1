import BotScript.Proofs.Memory.Load
import BotScript.Proofs.Memory.Slots
import BotScript.Proofs.Syntax.Identifiers

/-! Who owns a declared variable. A key joins the scope, the owner and the name with colons, and an
owner may be any text, with colons of its own. The name is what keeps keys apart: it is an
identifier, so the last colon of a key ends the owner. -/

namespace BotScript

open Lexer (IsIdentifier)

/-- Behind a last mark there is no other one. -/
private theorem append_mark_inj {α : Type} {c : α} {front front' back back' : List α}
    (unmarked : c ∉ back) (unmarked' : c ∉ back')
    (same : front ++ c :: back = front' ++ c :: back') : front = front' ∧ back = back' := by
  rcases List.append_eq_append_iff.mp same with ⟨middle, rfl, split⟩ | ⟨middle, rfl, split⟩
  · cases middle with
    | nil =>
      obtain ⟨-, rfl⟩ := List.cons.inj split
      exact ⟨(List.append_nil front).symm, rfl⟩
    | cons d rest =>
      obtain ⟨-, rfl⟩ := List.cons.inj split
      exact absurd (List.mem_append_right rest List.mem_cons_self) unmarked
  · cases middle with
    | nil =>
      obtain ⟨-, rfl⟩ := List.cons.inj split
      exact ⟨List.append_nil front', rfl⟩
    | cons d rest =>
      obtain ⟨-, rfl⟩ := List.cons.inj split
      exact absurd (List.mem_append_right rest List.mem_cons_self) unmarked'

/-- The user whom the host names. A user without an identifier is nobody in particular. -/
def Metadata.user? (metadata : Metadata) : Option String :=
  metadata.userId.filter (· ≠ "")

namespace Slot

variable {metadata metadata' : Metadata} {scope scope' : Scope} {name name' : String}

/-- Keys of variables are equal only if the scopes, the owners and the names are, whoever the owners
are. -/
theorem scopedKey_apart (identifier : IsIdentifier name.toList)
    (identifier' : IsIdentifier name'.toList)
    (same : scopedKey metadata scope name = scopedKey metadata' scope' name') :
    scope = scope' ∧ owner metadata scope = owner metadata' scope' ∧ name = name' := by
  rw [scopedKey_eq, scopedKey_eq] at same
  have chars := congrArg String.toList same
  have colon : (":" : String).toList = [':'] := by decide
  simp only [String.toList_append, colon, List.append_assoc, List.singleton_append] at chars
  by_cases one : scope = scope'
  · subst one
    have owned := List.cons.inj (List.append_cancel_left chars)
    have mark : ':' ∈ Lexer.marks := by decide
    obtain ⟨owners, names⟩ :=
      append_mark_inj (identifier.unmarked mark) (identifier'.unmarked mark) owned.2
    exact ⟨rfl, String.toList_inj.mp owners, String.toList_inj.mp names⟩
  · -- the first letters of the scopes differ
    have first := congrArg List.head? chars
    cases scope <;> cases scope' <;> simp [Scope.name] at first one

/-- The owner of user variables is the user, and nobody in particular is the anonymous owner. -/
theorem owner_user (metadata : Metadata) :
    owner metadata .user = metadata.user?.getD anonymousOwner := by
  unfold owner Metadata.user?
  cases metadata.userId with
  | none => rfl
  | some id => by_cases empty : id = "" <;> simp [empty, Option.filter]

/-- Declared variables of two runs are strangers to each other: they have different scopes, or they
belong to different bots, or to different users. Only the identifier of a user must not be the one
that stands for nobody. -/
inductive Strangers (metadata metadata' : Metadata) : Scope → Scope → Prop
  | scopes {scope scope' : Scope}
      (differ : scope ≠ scope') : Strangers metadata metadata' scope scope'
  | bots (differ : metadata.botId ≠ metadata'.botId) :
      Strangers metadata metadata' .session .session
  | users (differ : metadata.user? ≠ metadata'.user?)
      (named : metadata.userId ≠ some anonymousOwner)
      (named' : metadata'.userId ≠ some anonymousOwner) : Strangers metadata metadata' .user .user

/-- Users with different identifiers own different variables. -/
theorem owner_user_apart (differ : metadata.user? ≠ metadata'.user?)
    (named : metadata.userId ≠ some anonymousOwner)
    (named' : metadata'.userId ≠ some anonymousOwner) :
    owner metadata .user ≠ owner metadata' .user := by
  have known (metadata : Metadata) (id : String) (user : metadata.user? = some id) :
    metadata.userId = some id :=
    (Option.filter_eq_some_iff.mp user).1
  rw [owner_user, owner_user]
  intro same
  cases user : metadata.user? with
  | none =>
    cases user' : metadata'.user? with
    | none => exact differ (user.trans user'.symm)
    | some id' =>
      rw [user, user'] at same
      obtain rfl : anonymousOwner = id' := same
      exact named' (known metadata' _ user')
  | some id =>
    cases user' : metadata'.user? with
    | none =>
      rw [user, user'] at same
      obtain rfl : id = anonymousOwner := same
      exact named (known metadata _ user)
    | some id' =>
      rw [user, user'] at same
      obtain rfl : id = id' := same
      exact differ (user.trans user'.symm)

/-- Strangers have different keys, whatever their names are. -/
theorem Strangers.key_ne (strangers : Strangers metadata metadata' scope scope')
    (identifier : IsIdentifier name.toList) (identifier' : IsIdentifier name'.toList) :
    scopedKey metadata scope name ≠ scopedKey metadata' scope' name' := by
  intro same
  obtain ⟨scopes, owners, -⟩ := scopedKey_apart identifier identifier' same
  cases strangers with
  | scopes differ => exact differ scopes
  | bots differ => exact differ owners
  | users differ named named' => exact owner_user_apart differ named named' owners

end Slot

/-- The declared variables of a bot are identifiers. -/
theorem identifier_of_slot {source : String} {program : Program} {bot : Bot} {metadata : Metadata}
    {name : String} {slot : Slot} (parsed : parseProgram source = .ok program)
    (among : bot ∈ program.bots)
    (found : Entries.get? (Slot.ofBlocks metadata bot.memory) name = some slot) :
    IsIdentifier name.toList :=
  (identifiers_of_parseProgram parsed bot among).declared name
  (Slot.mem_memoryNames.mpr ⟨slot, found⟩)

end BotScript
