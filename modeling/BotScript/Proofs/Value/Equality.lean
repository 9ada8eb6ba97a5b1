import Mathlib.Algebra.Field.Rat
import Mathlib.Algebra.GroupWithZero.Basic
import Mathlib.Data.List.Forall2
import Mathlib.Data.List.Perm.Subperm
import Mathlib.Data.Rat.Cast.Defs
import BotScript.Evaluation.Expr
import BotScript.Proofs.Datum.RoundTrip

/-! Equality of values is equality of what they stand for. Two numbers are equal when they are one
exact number, whichever sort each of them is of; other values without parts are equal when they are
the same value; arrays are equal item by item, and objects when they have the same keys and equal
values under each. So equality is symmetric and transitive, and it is reflexive on every value in
which nothing is NaN. -/

namespace BotScript

/-- What a number is exactly: a fraction, or one of the infinities. -/
inductive Quantity
  | fraction (q : ℚ)
  | infinite (negative : Bool)

namespace Binary64

theorem one_ne_zero : (one : ℚ) ≠ 0 := by
  have nonzero : one ≠ 0 := by decide +kernel
  exact Nat.cast_ne_zero.mpr nonzero

/-- The exact number that a double precision number is; NaN is none. -/
def quantity? : Binary64 → Option Quantity
  | finite negative units => some (.fraction (signedUnits negative units / one))
  | infinite negative => some (.infinite negative)
  | nan => none

/-- Fractions of the same unit are equal when their units are. -/
theorem quantity?_finite {n m : Bool} {a b : Nat} :
    (finite n a).quantity? = (finite m b).quantity? ↔ signedUnits n a = signedUnits m b := by
  constructor
  · intro same
    have fractions := Quantity.fraction.inj (Option.some.inj same)
    exact Int.cast_inj.mp ((div_left_inj' one_ne_zero).mp fractions)
  · intro same
    rw [quantity?, quantity?, same]

theorem eq_iff {x y : Binary64} :
    x.eq y = true ↔ ∃ quantity, x.quantity? = some quantity ∧ y.quantity? = some quantity := by
  cases x with
  | finite n a =>
    cases y with
    | finite m b =>
      have both : (∃ quantity, (finite n a).quantity? = some quantity ∧
          (finite m b).quantity? = some quantity) ↔
          (finite n a).quantity? = (finite m b).quantity? :=
        ⟨fun ⟨_, left, right⟩ => left.trans right.symm, fun same => ⟨_, same, rfl⟩⟩
      rw [both, quantity?_finite]
      exact decide_eq_true_iff
    | infinite m => exact ⟨nofun, nofun⟩
    | nan => exact ⟨nofun, nofun⟩
  | infinite n =>
    cases y with
    | finite m b => exact ⟨nofun, nofun⟩
    | infinite m =>
      refine decide_eq_true_iff.trans ⟨fun same => ⟨_, rfl, same ▸ rfl⟩, ?_⟩
      rintro ⟨quantity, left, right⟩
      exact Quantity.infinite.inj (Option.some.inj (left.trans right.symm))
    | nan => exact ⟨nofun, nofun⟩
  | nan => exact ⟨nofun, nofun⟩

theorem eqInt_iff {x : Binary64} {n : Int} :
    x.eqInt n = true ↔ x.quantity? = some (.fraction n) := by
  cases x with
  | finite m a =>
    have scaled : ((signedUnits m a : ℚ) / one = n) ↔ signedUnits m a = n * (one : Int) := by
      rw [div_eq_iff one_ne_zero]
      exact_mod_cast Iff.rfl
    have fractions : (finite m a).quantity? = some (.fraction n) ↔
      (signedUnits m a : ℚ) / one = n :=
      ⟨fun same => Quantity.fraction.inj (Option.some.inj same),
        fun same => congrArg (fun q => some (Quantity.fraction q)) same⟩
    rw [fractions, scaled]
    exact decide_eq_true_iff
  | infinite m => exact ⟨nofun, nofun⟩
  | nan => exact ⟨nofun, nofun⟩

end Binary64

namespace Value

/-- The exact number that a number is. -/
def quantity? : Value → Option Quantity
  | integer n => some (.fraction n)
  | number x => x.quantity?
  | _ => none

/-- NaN stands in the value, at any depth. -/
inductive HoldsNaN : Value → Prop
  | itself : HoldsNaN (.number .nan)
  | item {items : List Value} {item : Value} (member : item ∈ items)
      (holds : HoldsNaN item) : HoldsNaN (.array items)
  | entry {entries : List (String × Value)} {entry : String × Value} (member : entry ∈ entries)
      (holds : HoldsNaN entry.2) : HoldsNaN (.object entries)

variable {u v w : Value} {items others : List Value} {entries pairs : List (String × Value)}

/-! ## One kind after the other -/

theorem kind_of_same (same : u.same v = true) : u.kind = v.kind := by
  cases u <;> cases v <;> first | rfl | simp [Value.same, sameNumber] at same

/-- Equality of numbers, of one sort or of both. -/
theorem same_numbers (left : u.kind = .number) (right : v.kind = .number) :
    u.same v = true ↔ ∃ quantity, u.quantity? = some quantity ∧ v.quantity? = some quantity := by
  cases u with
  | null | boolean _ | text _ | array _ | object _ => cases left
  | integer n =>
    cases v with
    | null | boolean _ | text _ | array _ | object _ => cases right
    | integer m => simp [same, sameNumber, quantity?, eq_comm]
    | number y => simp [same, sameNumber, quantity?, Binary64.eqInt_iff]
  | number x =>
    cases v with
    | null | boolean _ | text _ | array _ | object _ => cases right
    | integer m => simp [same, sameNumber, quantity?, Binary64.eqInt_iff]
    | number y => simp only [same, sameNumber, quantity?, Binary64.eq_iff]

/-- Nothing is equal to a value that is neither a number nor made of parts but the value itself. -/
theorem same_flat (flat : u.IsFlat) (other : u.kind ≠ .number) : u.same v = true ↔ u = v := by
  cases u with
  | array _ | object _ => exact flat.elim
  | integer _ | number _ => exact absurd rfl other
  | null | boolean _ | text _ => cases v <;> simp [same]

theorem sameItems_iff :
    sameItems items others = true ↔
      List.Forall₂ (fun one other => one.same other = true) items others := by
  induction items generalizing others with
  | nil => cases others <;> simp [sameItems]
  | cons item rest ih => cases others <;> simp [sameItems, ih]

theorem same_arrays : (array items).same (array others) = true ↔
    List.Forall₂ (fun one other => one.same other = true) items others := by
  rw [same, sameItems_iff]

theorem sameEntries_iff : sameEntries entries pairs = true ↔
    ∀ entry ∈ entries, ∃ other, Entries.get? pairs entry.1 = some other ∧
      entry.2.same other = true := by
  induction entries with
  | nil => simp [sameEntries]
  | cons entry rest ih =>
    rw [sameEntries, Bool.and_eq_true, ih, List.forall_mem_cons]
    refine and_congr_left fun _ => ?_
    cases Entries.get? pairs entry.1 <;> simp

/-- Maps with as many keys, all those of one among those of the other, have the same keys. -/
theorem mem_keys_of_subset (distinct : Entries.Distinct entries)
    (count : entries.length = pairs.length)
    (subset : ∀ key ∈ Entries.keys entries, key ∈ Entries.keys pairs) (key : String) :
    key ∈ Entries.keys entries ↔ key ∈ Entries.keys pairs := by
  have fewer : (Entries.keys pairs).length ≤ (Entries.keys entries).length := by
    simp only [Entries.keys, List.length_map, count, le_refl]
  exact ((List.subperm_of_subset distinct subset).perm_of_length_le fewer).mem_iff

/-- Equality of objects, whatever the order of the keys. -/
theorem same_objects (distinct : Entries.Distinct entries) (apart : Entries.Distinct pairs) :
    (object entries).same (object pairs) = true ↔
      (∀ key, key ∈ Entries.keys entries ↔ key ∈ Entries.keys pairs) ∧
        ∀ key one other, Entries.get? entries key = some one → Entries.get? pairs key = some other →
          one.same other = true := by
  rw [same, Bool.and_eq_true, decide_eq_true_iff, sameEntries_iff]
  constructor
  · rintro ⟨count, each⟩
    refine ⟨mem_keys_of_subset distinct count fun key member => ?_,
      fun key one other found matching => ?_⟩
    · obtain ⟨entry, within, rfl⟩ := List.mem_map.mp member
      obtain ⟨other, matching, _⟩ := each entry within
      exact (Entries.get?_isSome_iff pairs entry.1).mp (matching ▸ rfl)
    · obtain ⟨partner, given, equal⟩ := each (key, one) (Entries.mem_of_get? found)
      exact Option.some.inj (given.symm.trans matching) ▸ equal
  · rintro ⟨keys, each⟩
    refine ⟨?_, fun entry member => ?_⟩
    · have permuted := (List.perm_ext_iff_of_nodup distinct apart).mpr keys
      simpa [Entries.keys] using permuted.length_eq
    · have known : entry.1 ∈ Entries.keys pairs := (keys entry.1).mp (List.mem_map_of_mem member)
      obtain ⟨other, matching⟩ :=
        Option.isSome_iff_exists.mp ((Entries.get?_isSome_iff _ _).mpr known)
      exact ⟨other, matching,
        each entry.1 entry.2 other (Entries.get?_of_mem distinct member) matching⟩

theorem exists_array (kind : u.kind = .array) : ∃ items, u = array items := by
  cases u with
  | array items => exact ⟨items, rfl⟩
  | null | boolean _ | integer _ | number _ | text _ | object _ => cases kind

theorem exists_object (kind : u.kind = .object) : ∃ entries, u = object entries := by
  cases u with
  | object entries => exact ⟨entries, rfl⟩
  | null | boolean _ | integer _ | number _ | text _ | array _ => cases kind

/-! ## An equivalence but for NaN -/

theorem same_symm (left : u.WellKeyed) (right : v.WellKeyed) (same : u.same v = true) :
    v.same u = true := by
  induction left generalizing v with
  | @flat u flat =>
    by_cases number : u.kind = .number
    · have other : v.kind = .number := (kind_of_same same).symm.trans number
      obtain ⟨quantity, ofLeft, ofRight⟩ := (same_numbers number other).mp same
      exact (same_numbers other number).mpr ⟨quantity, ofRight, ofLeft⟩
    · obtain rfl := (same_flat flat number).mp same
      exact same
  | @array items _ ih =>
    obtain ⟨others, rfl⟩ := exists_array (kind_of_same same).symm
    rw [same_arrays, List.forall₂_iff_get] at same ⊢
    refine ⟨same.1.symm, fun i at_other at_one => ?_⟩
    exact ih _ (List.get_mem _ _) (right.items _ (List.get_mem _ _)) (same.2 i at_one at_other)
  | @object entries distinct _ ih =>
    obtain ⟨pairs, rfl⟩ := exists_object (kind_of_same same).symm
    obtain ⟨apart, all⟩ := right.entries
    obtain ⟨keys, each⟩ := (same_objects distinct apart).mp same
    refine (same_objects apart distinct).mpr ⟨fun key => (keys key).symm,
      fun key other one matching found => ?_⟩
    exact ih _ (Entries.mem_of_get? found) (all _ (Entries.mem_of_get? matching))
      (each key one other found matching)

theorem same_comm (left : u.WellKeyed) (right : v.WellKeyed) : u.same v = v.same u :=
  Bool.eq_iff_iff.mpr ⟨same_symm left right, same_symm right left⟩

theorem same_trans (left : u.WellKeyed) (middle : v.WellKeyed) (right : w.WellKeyed)
    (first : u.same v = true) (second : v.same w = true) : u.same w = true := by
  induction left generalizing v w with
  | @flat u flat =>
    by_cases number : u.kind = .number
    · have other : v.kind = .number := (kind_of_same first).symm.trans number
      have last : w.kind = .number := (kind_of_same second).symm.trans other
      obtain ⟨quantity, ofFirst, ofSecond⟩ := (same_numbers number other).mp first
      obtain ⟨again, ofMiddle, ofLast⟩ := (same_numbers other last).mp second
      obtain rfl := Option.some.inj (ofSecond.symm.trans ofMiddle)
      exact (same_numbers number last).mpr ⟨quantity, ofFirst, ofLast⟩
    · obtain rfl := (same_flat flat number).mp first
      exact second
  | @array items _ ih =>
    obtain ⟨others, rfl⟩ := exists_array (kind_of_same first).symm
    obtain ⟨further, rfl⟩ := exists_array (kind_of_same second).symm
    rw [same_arrays, List.forall₂_iff_get] at first second ⊢
    refine ⟨first.1.trans second.1, fun i at_one at_last => ?_⟩
    have between : i < others.length := first.1 ▸ at_one
    exact ih _ (List.get_mem _ _) (middle.items _ (List.get_mem _ _))
      (right.items _ (List.get_mem _ _))
      (first.2 i at_one between) (second.2 i between at_last)
  | @object entries distinct _ ih =>
    obtain ⟨pairs, rfl⟩ := exists_object (kind_of_same first).symm
    obtain ⟨further, rfl⟩ := exists_object (kind_of_same second).symm
    obtain ⟨apart, all⟩ := middle.entries
    obtain ⟨alone, rest⟩ := right.entries
    obtain ⟨keys, each⟩ := (same_objects distinct apart).mp first
    obtain ⟨same, every⟩ := (same_objects apart alone).mp second
    refine (same_objects distinct alone).mpr ⟨fun key => (keys key).trans (same key),
      fun key one last found matching => ?_⟩
    -- the key is also one of the object between
    have known : key ∈ Entries.keys pairs :=
      (keys key).mp ((Entries.get?_isSome_iff entries key).mp (found ▸ rfl))
    obtain ⟨between, between_found⟩ :=
      Option.isSome_iff_exists.mp ((Entries.get?_isSome_iff pairs key).mpr known)
    exact ih _ (Entries.mem_of_get? found) (all _ (Entries.mem_of_get? between_found))
      (rest _ (Entries.mem_of_get? matching)) (each key one between found between_found)
      (every key between last between_found matching)

theorem same_self_iff (keyed : u.WellKeyed) : u.same u = true ↔ ¬u.HoldsNaN := by
  induction keyed with
  | @flat u flat =>
    cases u with
    | array _ | object _ => exact flat.elim
    | null | boolean _ | text _ => exact ⟨fun _ => nofun, fun _ => by simp [same]⟩
    | integer n => exact ⟨fun _ => nofun, fun _ => by simp [same, sameNumber]⟩
    | number x =>
      cases x with
      | finite _ _ | infinite _ =>
        exact ⟨fun _ => nofun, fun _ => by simp [same, sameNumber, Binary64.eq]⟩
      | nan =>
        exact ⟨fun equal => by simp [same, sameNumber, Binary64.eq] at equal,
          fun free => absurd .itself free⟩
  | @array items _ ih =>
    rw [same_arrays, List.forall₂_same]
    constructor
    · rintro each (_ | ⟨member, holds⟩)
      exact (ih _ member).mp (each _ member) holds
    · exact fun free item member => (ih item member).mpr fun holds => free (.item member holds)
  | @object entries distinct _ ih =>
    rw [same_objects distinct distinct]
    constructor
    · rintro ⟨_, each⟩ (_ | _ | ⟨member, holds⟩)
      have found := Entries.get?_of_mem distinct member
      exact (ih _ member).mp (each _ _ _ found found) holds
    · intro free
      refine ⟨fun _ => Iff.rfl, fun key one other found again => ?_⟩
      obtain rfl := Option.some.inj (found.symm.trans again)
      exact (ih _ (Entries.mem_of_get? found)).mpr fun holds =>
        free (.entry (Entries.mem_of_get? found) holds)

/-- Equality against equal values is the same, so an array has an item equal to one of them if it
has one equal to the other. -/
theorem contains_congr (keyed : (array items).WellKeyed) (left : v.WellKeyed) (right : w.WellKeyed)
    (equal : v.same w = true) : (array items).contains v = (array items).contains w := by
  have each (item : Value) (member : item ∈ items) : item.same v = true ↔ item.same w = true :=
    ⟨fun found => same_trans (keyed.items item member) left right found equal,
      fun found =>
        same_trans (keyed.items item member) right left found (same_symm left right equal)⟩
  have any : items.any (·.same v) = items.any (·.same w) := by
    rw [Bool.eq_iff_iff, List.any_eq_true, List.any_eq_true]
    exact exists_congr fun item => and_congr_right (each item)
  rw [contains, contains, any]

/-! ## What equality is -/

/-- How equality of values compares two of them, and how it carries on to a third one. -/
structure Equality (u v w : Value) : Prop where
  /-- Equal values are of one kind, so that a boolean is never equal to a number. -/
  kinds : u.same v = true → u.kind = v.kind
  /-- Nulls, booleans and texts are equal to themselves only. -/
  flats : u.IsFlat → u.kind ≠ .number → (u.same v = true ↔ u = v)
  /-- Numbers of either sort are equal when they are exactly one number. -/
  numbers : u.kind = .number → v.kind = .number →
    (u.same v = true ↔ ∃ quantity, u.quantity? = some quantity ∧ v.quantity? = some quantity)
  /-- Arrays are as long as each other, with equal items at each place. -/
  arrays : ∀ items others, u = array items → v = array others →
    (u.same v = true ↔ List.Forall₂ (fun one other => one.same other = true) items others)
  /-- Objects have the same keys, in any order, and equal values under each. -/
  objects : ∀ entries pairs, u = object entries → v = object pairs →
    (u.same v = true ↔
      (∀ key, key ∈ Entries.keys entries ↔ key ∈ Entries.keys pairs) ∧
        ∀ key one other, Entries.get? entries key = some one → Entries.get? pairs key = some other →
          one.same other = true)
  symmetric : u.same v = v.same u
  transitive : u.same v = true → v.same w = true → u.same w = true
  reflexive : u.same u = true ↔ ¬u.HoldsNaN
  /-- An array contains both of two equal values or none of them. -/
  contained : ∀ items, u = array items → v.same w = true → u.contains v = u.contains w
  /-- Two expressions compare as the values that they come to. -/
  compared : ∀ env one other negated p, Expr.eval env one = .ok u → Expr.eval env other = .ok v →
    Expr.eval env (.equals one other negated p) = .ok (.boolean (u.same v != negated))

/-- Equality of values is structural, by exact value, and an equivalence but for NaN; and on all
expressions `!=` comes to the negation of what `==` comes to, or fails as it does. -/
theorem same_structural (left : u.WellKeyed) (middle : v.WellKeyed) (right : w.WellKeyed) :
    Equality u v w ∧ ∀ env one other p q, ∃ outcome : Except Trouble Bool,
      Expr.eval env (.equals one other false p) = outcome.map boolean ∧
        Expr.eval env (.equals one other true q) = outcome.map fun equal => boolean !equal := by
  refine ⟨?_, fun env one other p q => ?_⟩
  · exact {
      kinds := kind_of_same
      flats := same_flat
      numbers := same_numbers
      arrays := by
        rintro items others rfl rfl
        exact same_arrays
      objects := by
        rintro entries pairs rfl rfl
        exact same_objects left.entries.1 middle.entries.1
      symmetric := same_comm left middle
      transitive := same_trans left middle right
      reflexive := same_self_iff left
      contained := by
        rintro items rfl equal
        exact contains_congr left middle right equal
      compared := by
        intro env one other negated p first second
        rw [Expr.eval, first, second]
        rfl }
  · rw [Expr.eval, Expr.eval]
    cases Expr.eval env one with
    | error failure => exact ⟨.error failure, rfl, rfl⟩
    | ok a =>
      cases Expr.eval env other with
      | error failure => exact ⟨.error failure, rfl, rfl⟩
      | ok b => exact ⟨.ok (a.same b), by simp [bind, Except.bind, Except.map, pure, Except.pure],
          by simp [bind, Except.bind, Except.map, pure, Except.pure]⟩

/-- An integer with 54 significant bits is not equal to the double precision number nearest to
it. -/
example : (integer (2 ^ 53 + 1)).same (number (.ofInt (2 ^ 53 + 1))) = false := by decide +kernel

/-- Objects with their keys in another order and numbers of the other sort, among them a negative
zero and a power of two that no 64 bits hold. -/
theorem same_structural_reordered :
    let u := object [("zero", integer 0), ("large", array [integer (2 ^ 80)])]
    let v := object [("large", array [number (.ofInt (2 ^ 80))]), ("zero", number (.finite true 0))]
    let w := object [("zero", number .zero), ("large", array [integer (2 ^ 80)])]
    u.same v = true ∧ v.same w = true ∧ Equality u v w := by
  refine ⟨by decide +kernel, by decide +kernel, (same_structural ?_ ?_ ?_).1⟩
  all_goals
    refine .object (by simp [Entries.Distinct]) ?_
    refine List.forall_mem_cons.mpr ⟨?_, List.forall_mem_singleton.mpr ?_⟩
  · exact .flat trivial
  · exact .array (List.forall_mem_singleton.mpr (.flat trivial))
  · exact .array (List.forall_mem_singleton.mpr (.flat trivial))
  · exact .flat trivial
  · exact .flat trivial
  · exact .array (List.forall_mem_singleton.mpr (.flat trivial))

end Value

end BotScript
