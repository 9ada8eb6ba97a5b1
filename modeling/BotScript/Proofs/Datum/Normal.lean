import BotScript.Datum.Inspect
import BotScript.Proofs.Value.Equality

/-! The normal form of host data. All that a host can hand over is either converted to a value of
the language or holds an exact number that no double precision number stands for. A value of the
language is in normal form: as host data it is converted to itself, and what programs ask of it is
asked of it as it is, so that nothing in it is of an unsupported kind. -/

namespace BotScript

namespace Datum

/-- Every exact number in host data, at any depth, has a double precision number. -/
inductive Floats : Datum → Prop
  | null : Floats .null
  | boolean (b : Bool) : Floats (.boolean b)
  | integer (n : Int) : Floats (.integer n)
  | number (x : Binary64) : Floats (.number x)
  | text (s : String) : Floats (.text s)
  | foreign (description : String) : Floats (.foreign description)
  | decimal {x : ExactDecimal} (quiet : ∀ negative payload, x ≠ .nan negative true payload) :
      Floats (.decimal x)
  | fraction {q : Rat} (within : ∀ negative, fractionNumber q ≠ .infinite negative) :
      Floats (.fraction q)
  | list {items : List Datum} (all : ∀ item ∈ items, Floats item) : Floats (.list items)
  | tuple {items : List Datum} (all : ∀ item ∈ items, Floats item) : Floats (.tuple items)
  | mapping {entries : List (Key × Datum)} (all : ∀ entry ∈ entries, Floats entry.2) :
      Floats (.mapping entries)
  | result {success output data : Datum} (first : Floats success) (second : Floats output)
      (third : Floats data) :
      Floats (.result success output data)

/-! ## Conversion -/

theorem itemsObstacle?_eq_none {items : List Datum} (all : ∀ item ∈ items, item.obstacle? = none) :
    itemsObstacle? items = none := by
  induction items with
  | nil => rfl
  | cons item rest ih =>
    obtain ⟨first, others⟩ := List.forall_mem_cons.mp all
    rw [itemsObstacle?, first, ih others, Option.none_or]

theorem entriesObstacle?_eq_none {entries : List (Key × Datum)}
    (all : ∀ entry ∈ entries, entry.2.obstacle? = none) :
    entriesObstacle? entries = none := by
  induction entries with
  | nil => rfl
  | cons entry rest ih =>
    obtain ⟨first, others⟩ := List.forall_mem_cons.mp all
    rw [entriesObstacle?, first, ih others, Option.none_or]

theorem Floats.obstacle? {datum : Datum} (floats : datum.Floats) : datum.obstacle? = none := by
  induction floats with
  | null | boolean _ | integer _ | number _ | text _ | foreign _ => rfl
  | @decimal x quiet =>
    cases x with
    | finite _ _ _ | infinite _ => rfl
    | nan negative signaling payload =>
      cases signaling with
      | false => rfl
      | true => exact absurd rfl (quiet negative payload)
  | @fraction q within =>
    rw [Datum.obstacle?]
    cases rounded : fractionNumber q with
    | finite _ _ | nan => rfl
    | infinite negative => exact absurd rounded (within negative)
  | list _ ih | tuple _ ih =>
    rw [Datum.obstacle?]
    exact itemsObstacle?_eq_none ih
  | mapping _ ih =>
    rw [Datum.obstacle?]
    exact entriesObstacle?_eq_none ih
  | result _ _ _ first second third =>
    rw [Datum.obstacle?, first, second, third, Option.none_or, Option.none_or]

mutual

theorem floats_of_obstacle? (datum : Datum) : datum.obstacle? = none → datum.Floats := by
  match datum with
  | .null => exact fun _ => .null
  | .boolean b => exact fun _ => .boolean b
  | .integer n => exact fun _ => .integer n
  | .number x => exact fun _ => .number x
  | .text s => exact fun _ => .text s
  | .foreign description => exact fun _ => .foreign description
  | .decimal x =>
    intro free
    refine .decimal fun negative payload same => ?_
    rw [same] at free
    cases free
  | .fraction q =>
    intro free
    refine .fraction fun negative same => ?_
    rw [obstacle?, same] at free
    cases free
  | .list items =>
    rw [obstacle?]
    exact fun free => .list (floats_of_itemsObstacle? items free)
  | .tuple items =>
    rw [obstacle?]
    exact fun free => .tuple (floats_of_itemsObstacle? items free)
  | .mapping entries =>
    rw [obstacle?]
    exact fun free => .mapping (floats_of_entriesObstacle? entries free)
  | .result success output data =>
    rw [obstacle?, Option.or_eq_none_iff, Option.or_eq_none_iff]
    rintro ⟨first, second, third⟩
    exact .result (floats_of_obstacle? success first) (floats_of_obstacle? output second)
      (floats_of_obstacle? data third)

theorem floats_of_itemsObstacle? (items : List Datum) :
    itemsObstacle? items = none → ∀ item ∈ items, item.Floats := by
  match items with
  | [] => exact fun _ => List.forall_mem_nil _
  | item :: rest =>
    rw [itemsObstacle?, Option.or_eq_none_iff]
    rintro ⟨first, others⟩
    exact List.forall_mem_cons.mpr ⟨floats_of_obstacle? item first,
      floats_of_itemsObstacle? rest others⟩

theorem floats_of_entriesObstacle? (entries : List (Key × Datum)) :
    entriesObstacle? entries = none → ∀ entry ∈ entries, entry.2.Floats := by
  match entries with
  | [] => exact fun _ => List.forall_mem_nil _
  | (key, datum) :: rest =>
    rw [entriesObstacle?, Option.or_eq_none_iff]
    rintro ⟨first, others⟩
    exact List.forall_mem_cons.mpr ⟨floats_of_obstacle? datum first,
      floats_of_entriesObstacle? rest others⟩

end

mutual

theorem writable?_ofValue (value : Value) : (ofValue value).writable? = .ok value := by
  match value with
  | .null | .boolean _ | .integer _ | .number _ | .text _ => rfl
  | .array items =>
    rw [ofValue, writable?, writableItems?_ofValues items]
    rfl
  | .object entries =>
    rw [ofValue, writable?, writableEntries?_ofEntries entries]
    rfl

theorem writableItems?_ofValues (items : List Value) :
    writableItems? (ofValues items) = .ok items := by
  match items with
  | [] => rfl
  | item :: rest =>
    rw [ofValues, writableItems?, writable?_ofValue item, writableItems?_ofValues rest]
    rfl

theorem writableEntries?_ofEntries (entries : List (String × Value)) :
    writableEntries? (ofEntries entries) = .ok entries := by
  match entries with
  | [] => rfl
  | (key, value) :: rest =>
    rw [ofEntries, writableEntries?, writable?_ofValue value, writableEntries?_ofEntries rest]
    rfl

end

theorem length_ofValues (items : List Value) : (ofValues items).length = items.length := by
  induction items with
  | nil => rfl
  | cons item rest ih => rw [ofValues, List.length_cons, List.length_cons, ih]

theorem ofEntries_eq_map (entries : List (String × Value)) :
    ofEntries entries = entries.map fun entry => (.text entry.1, ofValue entry.2) := by
  induction entries with
  | nil => rfl
  | cons entry rest ih => rw [ofEntries, ih, List.map_cons]

theorem Key.same_text (a b : String) : Key.same (.text a) (.text b) = decide (a = b) := by
  simp [Key.same, Key.number?]

/-- A key is looked up among the entries of an object as among those of the mapping that it is for
the host. -/
theorem find?_ofEntries (entries : List (String × Value)) (key : String) :
    (ofEntries entries).find? (·.1.same (.text key)) =
      (Entries.get? entries key).map fun value => (.text key, ofValue value) := by
  induction entries with
  | nil => rfl
  | cons entry rest ih =>
    obtain ⟨first, value⟩ := entry
    rw [ofEntries, List.find?_cons, Key.same_text, Entries.get?]
    by_cases same : first = key
    · simp [same]
    · simp [same, ih]

theorem sameKeys_ofEntries (entries others : List (String × Value)) :
    sameKeys (ofEntries entries) (ofEntries others) =
      (entries.length = others.length && entries.all fun entry => Entries.has others entry.1) := by
  have found (key : String) : (ofEntries others).any (·.1.same (.text key)) =
      Entries.has others key := by
    rw [Bool.eq_iff_iff, List.any_eq_true, ← List.find?_isSome, find?_ofEntries, Option.isSome_map]
    rfl
  rw [sameKeys, ofEntries_eq_map, List.all_map]
  simp only [Function.comp_def, List.length_map, found]
  rw [ofEntries_eq_map, List.length_map]

/-- Entries that are all among the others have all their keys among them. -/
theorem all_has_of_sameEntries {entries others : List (String × Value)}
    (same : Value.sameEntries entries others = true) :
    (entries.all fun entry => Entries.has others entry.1) = true := by
  induction entries with
  | nil => rfl
  | cons entry rest ih =>
    rw [Value.sameEntries, Bool.and_eq_true] at same
    rw [List.all_cons, Bool.and_eq_true, Entries.has]
    refine ⟨?_, ih same.2⟩
    cases found : Entries.get? others entry.1 with
    | none =>
      rw [found] at same
      cases same.1
    | some other => rfl

mutual

/-- Equality of values as host data is equality of values. -/
theorem same?_ofValue (value other : Value) :
    (ofValue value).same? (ofValue other) = .ok (value.same other) := by
  match value with
  | .null | .boolean _ | .integer _ | .number _ | .text _ => cases other <;> rfl
  | .array items =>
    cases other with
    | null | boolean _ | integer _ | number _ | text _ | object _ => rfl
    | array others =>
      change (if (ofValues items).length = (ofValues others).length then
        sameItems? (ofValues items) (ofValues others)
        else .ok false) = _
      rw [Value.same, length_ofValues, length_ofValues]
      split
      · rename_i equal
        exact sameItems?_ofValues items others equal
      · rename_i unequal
        -- arrays of different lengths are never equal item by item
        have apart : Value.sameItems items others = false :=
          Bool.eq_false_iff.mpr fun same => unequal (Value.sameItems_iff.mp same).length_eq
        rw [apart]
  | .object entries =>
    cases other with
    | null | boolean _ | integer _ | number _ | text _ | array _ => rfl
    | object others =>
      change (if sameKeys (ofEntries entries) (ofEntries others) then
        sameEntries? (ofEntries entries) (ofEntries others)
        else .ok false) = _
      rw [Value.same, sameKeys_ofEntries, sameEntries?_ofEntries entries others]
      split
      · rename_i keys
        rw [Bool.and_eq_true] at keys
        rw [keys.1, Bool.true_and]
      · rename_i keys
        refine congrArg Except.ok (Bool.eq_false_iff.mpr fun same => keys ?_).symm
        rw [Bool.and_eq_true] at same ⊢
        exact ⟨same.1, all_has_of_sameEntries same.2⟩

theorem sameItems?_ofValues (items others : List Value) (equal : items.length = others.length) :
    sameItems? (ofValues items) (ofValues others) = .ok (Value.sameItems items others) := by
  match items, others with
  | [], [] => rfl
  | item :: items, other :: others =>
    rw [ofValues, ofValues, sameItems?, same?_ofValue item other, Value.sameItems]
    cases item.same other with
    | false => rfl
    | true => exact sameItems?_ofValues items others (Nat.succ.inj equal)

theorem sameEntries?_ofEntries (entries others : List (String × Value)) :
    sameEntries? (ofEntries entries) (ofEntries others) =
      .ok (Value.sameEntries entries others) := by
  match entries with
  | [] => rfl
  | (key, value) :: rest =>
    rw [ofEntries, sameEntries?, find?_ofEntries, Value.sameEntries]
    cases Entries.get? others key with
    | none => rfl
    | some other =>
      dsimp only [Option.map_some]
      rw [same?_ofValue value other]
      cases value.same other with
      | false => rfl
      | true => exact sameEntries?_ofEntries rest others

end

end Datum

/-! ## Normal form -/

/-- Of two keys with one text the first gives the place and the last gives the value. -/
example :
    (Datum.mapping [(.integer 1, .null), (.text "a", .null),
      (.text "1", .tuple [.foreign "thing"])]).convert =
    .ok (.object [("1", .array [.text "thing"]), ("a", .null)]) := by rfl

end BotScript
