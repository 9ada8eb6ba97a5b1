import BotScript.Datum.Basic

/-! Values as host data and back. In values of the language no object has a key twice. Such a value
is found again when it is handed to the host and converted back, and conversion of host data gives
no other values. -/

namespace BotScript

namespace Value

/-- The value has no parts: it is neither an array nor an object. -/
def IsFlat : Value → Prop
  | array _ | object _ => False
  | _ => True

/-- No object in the value has a key twice. -/
inductive WellKeyed : Value → Prop
  | flat {value : Value} (flat : value.IsFlat) : WellKeyed value
  | array {items : List Value} (all : ∀ item ∈ items, WellKeyed item) : WellKeyed (.array items)
  | object {entries : List (String × Value)} (distinct : Entries.Distinct entries)
      (all : ∀ entry ∈ entries, WellKeyed entry.2) : WellKeyed (.object entries)

theorem WellKeyed.items {items : List Value} (keyed : WellKeyed (.array items)) :
    ∀ item ∈ items, item.WellKeyed := by
  cases keyed with
  | flat flat => exact flat.elim
  | array all => exact all

theorem WellKeyed.entries {entries : List (String × Value)} (keyed : WellKeyed (.object entries)) :
    Entries.Distinct entries ∧ ∀ entry ∈ entries, entry.2.WellKeyed := by
  cases keyed with
  | flat flat => exact flat.elim
  | object distinct all => exact ⟨distinct, all⟩

theorem WellKeyed.putAll {entries added : List (String × Value)}
    (keyed : WellKeyed (.object entries)) (all : ∀ entry ∈ added, entry.2.WellKeyed) :
    WellKeyed (.object (Entries.putAll entries added)) :=
  .object (keyed.entries.1.putAll added) fun entry member =>
    (Entries.mem_putAll member).elim (keyed.entries.2 entry) (all entry)

theorem WellKeyed.put {entries : List (String × Value)} {value : Value}
    (keyed : WellKeyed (.object entries)) (key : String) (given : value.WellKeyed) :
    WellKeyed (.object (Entries.put entries key value)) := by
  have all : ∀ entry ∈ [(key, value)], entry.2.WellKeyed := List.forall_mem_singleton.mpr given
  exact keyed.putAll all

/-- An object made by writing entries one after the other. -/
theorem WellKeyed.ofList {entries : List (String × Value)}
    (all : ∀ entry ∈ entries, entry.2.WellKeyed) :
    WellKeyed (.object (Entries.ofList entries)) :=
  .object (Entries.distinct_ofList entries) fun entry member =>
    all entry (Entries.mem_ofList member)

end Value

namespace Datum

open Value (WellKeyed)

mutual

/-- Conversion of host data gives no object a key twice. -/
theorem wellKeyed_toValue (datum : Datum) : datum.toValue.WellKeyed := by
  match datum with
  | .null | .boolean _ | .integer _ | .number _ | .text _ | .decimal _ | .fraction _ | .foreign _ =>
    rw [toValue]
    exact .flat trivial
  | .list items | .tuple items =>
    rw [toValue]
    exact .array (wellKeyed_toValues items)
  | .mapping entries =>
    rw [toValue]
    exact .ofList (wellKeyed_toEntries entries)
  | .result success output data =>
    rw [toValue]
    refine .object (by simp [Entries.Distinct])
      (List.forall_mem_cons.mpr ⟨wellKeyed_toValue success, ?_⟩)
    exact List.forall_mem_cons.mpr ⟨wellKeyed_toValue output,
      List.forall_mem_singleton.mpr (wellKeyed_toValue data)⟩

theorem wellKeyed_toValues (items : List Datum) : ∀ value ∈ toValues items, value.WellKeyed := by
  match items with
  | [] =>
    rw [toValues]
    exact List.forall_mem_nil _
  | item :: rest =>
    rw [toValues]
    exact List.forall_mem_cons.mpr ⟨wellKeyed_toValue item, wellKeyed_toValues rest⟩

theorem wellKeyed_toEntries (entries : List (Key × Datum)) :
    ∀ entry ∈ toEntries entries, entry.2.WellKeyed := by
  match entries with
  | [] =>
    rw [toEntries]
    exact List.forall_mem_nil _
  | (key, datum) :: rest =>
    rw [toEntries]
    exact List.forall_mem_cons.mpr ⟨wellKeyed_toValue datum, wellKeyed_toEntries rest⟩

end

theorem wellKeyed_convert {datum : Datum} {value : Value} (converted : datum.convert = .ok value) :
    value.WellKeyed := by
  unfold convert at converted
  split at converted
  · cases converted
  · obtain rfl := Except.ok.inj converted
    exact wellKeyed_toValue datum

theorem toValues_ofValues {items : List Value}
    (all : ∀ item ∈ items, (ofValue item).toValue = item) :
    toValues (ofValues items) = items := by
  induction items with
  | nil => rfl
  | cons item rest ih =>
    rw [ofValues, toValues, all item List.mem_cons_self,
      ih fun other member => all other (List.mem_cons_of_mem _ member)]

theorem toEntries_ofEntries {entries : List (String × Value)}
    (all : ∀ entry ∈ entries, (ofValue entry.2).toValue = entry.2) :
    toEntries (ofEntries entries) = entries := by
  induction entries with
  | nil => rfl
  | cons entry rest ih =>
    rw [ofEntries, toEntries, all entry List.mem_cons_self,
      ih fun other member => all other (List.mem_cons_of_mem _ member)]
    rfl

/-- A value that is handed to the host is found again. -/
theorem toValue_ofValue {value : Value} (keyed : value.WellKeyed) :
    (ofValue value).toValue = value := by
  induction keyed with
  | @flat value flat =>
    cases value with
    | array _ | object _ => exact flat.elim
    | null | boolean _ | integer _ | number _ | text _ => rfl
  | array _ ih => rw [ofValue, toValue, toValues_ofValues ih]
  | object distinct _ ih =>
    rw [ofValue, toValue, toEntries_ofEntries ih, Entries.ofList_of_distinct distinct]

mutual

/-- A value as host data can be converted. -/
theorem obstacle?_ofValue (value : Value) : (ofValue value).obstacle? = none := by
  match value with
  | .null | .boolean _ | .integer _ | .number _ | .text _ => rfl
  | .array items => rw [ofValue, obstacle?, itemsObstacle?_ofValues items]
  | .object entries => rw [ofValue, obstacle?, entriesObstacle?_ofEntries entries]

theorem itemsObstacle?_ofValues (items : List Value) : itemsObstacle? (ofValues items) = none := by
  match items with
  | [] => rfl
  | item :: rest =>
    rw [ofValues, itemsObstacle?, obstacle?_ofValue item, itemsObstacle?_ofValues rest,
      Option.none_or]

theorem entriesObstacle?_ofEntries (entries : List (String × Value)) :
    entriesObstacle? (ofEntries entries) = none := by
  match entries with
  | [] => rfl
  | (key, value) :: rest =>
    rw [ofEntries, entriesObstacle?, obstacle?_ofValue value, entriesObstacle?_ofEntries rest,
      Option.none_or]

end

theorem convert_ofValue {value : Value} (keyed : value.WellKeyed) :
    (ofValue value).convert = .ok value := by
  rw [convert, obstacle?_ofValue, toValue_ofValue keyed]

end Datum

end BotScript
