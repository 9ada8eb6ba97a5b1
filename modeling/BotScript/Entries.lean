/-!
Insertion-ordered maps, kept as lists of key and value pairs. Writing a key that is present replaces
its value and keeps its place; writing a new key puts it at the end. Objects, variables, stores and
catalogues all keep this order, because programs and their hosts can see it.
-/

namespace BotScript.Entries

variable {κ α : Type}

/-- The keys in order. -/
def keys (entries : List (κ × α)) : List κ :=
  entries.map Prod.fst

/-- No key occurs twice. -/
def Distinct (entries : List (κ × α)) : Prop :=
  (keys entries).Nodup

@[simp] theorem keys_nil : keys ([] : List (κ × α)) = [] := rfl

@[simp] theorem keys_cons (pair : κ × α) (rest : List (κ × α)) :
    keys (pair :: rest) = pair.1 :: keys rest := rfl

variable [DecidableEq κ]

/-- The value under a key. -/
def get? : List (κ × α) → κ → Option α
  | [], _ => none
  | (k, a) :: rest, key => if k = key then some a else get? rest key

/-- Some entry has the key. -/
def has (entries : List (κ × α)) (key : κ) : Bool :=
  (get? entries key).isSome

/-- The entries with `value` under `key`. -/
def put : List (κ × α) → κ → α → List (κ × α)
  | [], key, value => [(key, value)]
  | (k, a) :: rest, key, value =>
    if k = key then (k, value) :: rest else (k, a) :: put rest key value

/-- The entries without `key`. -/
def erase : List (κ × α) → κ → List (κ × α)
  | [], _ => []
  | (k, a) :: rest, key => if k = key then erase rest key else (k, a) :: erase rest key

/-- All pairs of `added` written one after the other. -/
def putAll (entries added : List (κ × α)) : List (κ × α) :=
  added.foldl (fun entries pair => put entries pair.1 pair.2) entries

/-- The map that results from writing the pairs one after the other. -/
def ofList (pairs : List (κ × α)) : List (κ × α) :=
  putAll [] pairs

@[simp] theorem get?_nil (key : κ) : get? ([] : List (κ × α)) key = none := rfl

/-- A key read after a write. -/
theorem get?_put (entries : List (κ × α)) (key other : κ) (value : α) :
    get? (put entries key value) other = if key = other then some value
      else get? entries other := by
  induction entries with
  | nil => rfl
  | cons pair rest ih =>
    obtain ⟨k, a⟩ := pair
    by_cases same : k = key
    · subst same
      by_cases eq : k = other <;> simp [put, get?, eq]
    · by_cases eq : k = other
      · subst eq
        simp [put, get?, same, Ne.symm same]
      · simp [put, get?, same, eq, ih]

@[simp] theorem get?_put_self (entries : List (κ × α)) (key : κ) (value : α) :
    get? (put entries key value) key = some value := by
  simp [get?_put]

theorem get?_put_of_ne (entries : List (κ × α)) {key other : κ} (ne : key ≠ other) (value : α) :
    get? (put entries key value) other = get? entries other := by
  simp [get?_put, ne]

/-- Some entry has the key exactly when it is one of the keys. -/
theorem get?_isSome_iff (entries : List (κ × α)) (key : κ) :
    (get? entries key).isSome ↔ key ∈ keys entries := by
  induction entries with
  | nil => simp
  | cons pair rest ih =>
    obtain ⟨k, a⟩ := pair
    by_cases same : k = key
    · simp [get?, same]
    · simp [get?, same, ih, Ne.symm same]

/-- A key read after an erasure. -/
theorem get?_erase (entries : List (κ × α)) (key other : κ) :
    get? (erase entries key) other = if key = other then none else get? entries other := by
  induction entries with
  | nil => simp [erase]
  | cons pair rest ih =>
    obtain ⟨k, a⟩ := pair
    by_cases same : k = key
    · subst same
      by_cases eq : k = other <;> simp_all [erase, get?]
    · by_cases eq : k = other
      · subst eq
        simp [erase, get?, same, Ne.symm same]
      · simp [erase, get?, same, eq, ih]

/-- The keys that are left without one. -/
theorem keys_erase (entries : List (κ × α)) (key : κ) :
    keys (erase entries key) = (keys entries).filter (· ≠ key) := by
  induction entries with
  | nil => rfl
  | cons pair rest ih =>
    obtain ⟨k, a⟩ := pair
    by_cases same : k = key <;> simp [erase, same, ih]

/-- The entries in front win. -/
theorem get?_append (front back : List (κ × α)) (key : κ) :
    get? (front ++ back) key = (get? front key).or (get? back key) := by
  induction front with
  | nil => rfl
  | cons pair rest ih =>
    obtain ⟨k, a⟩ := pair
    by_cases same : k = key <;> simp [get?, same, ih]

/-- Of two writes to one key the second counts. -/
theorem put_put (entries : List (κ × α)) (key : κ) (first second : α) :
    put (put entries key first) key second = put entries key second := by
  induction entries with
  | nil => simp [put]
  | cons pair rest ih =>
    obtain ⟨k, a⟩ := pair
    by_cases same : k = key
    · simp [put, same]
    · simp [put, same, ih]

/-- A write that is erased again leaves nothing of its key. -/
theorem erase_put (entries : List (κ × α)) (key : κ) (value : α) :
    erase (put entries key value) key = erase entries key := by
  induction entries with
  | nil => simp [put, erase]
  | cons pair rest ih =>
    obtain ⟨k, a⟩ := pair
    by_cases same : k = key
    · simp [put, erase, same]
    · simp [put, erase, same, ih]

/-- A write adds its key at the end unless it is there. -/
theorem keys_put (entries : List (κ × α)) (key : κ) (value : α) :
    keys (put entries key value) = if key ∈ keys entries then keys entries
      else keys entries ++ [key] := by
  induction entries with
  | nil => simp [put]
  | cons pair rest ih =>
    obtain ⟨k, a⟩ := pair
    by_cases same : k = key
    · simp [put, same]
    · by_cases mem : key ∈ keys rest <;> simp [put, same, ih, mem, Ne.symm same]

theorem mem_keys_put {entries : List (κ × α)} {key other : κ} {value : α} :
    other ∈ keys (put entries key value) ↔ other = key ∨ other ∈ keys entries := by
  rw [keys_put]
  split
  · rename_i known
    exact ⟨.inr, fun either => either.elim (fun same => same ▸ known) id⟩
  · rw [List.mem_append, List.mem_singleton, or_comm]

theorem mem_keys_putAll {entries added : List (κ × α)} {key : κ} :
    key ∈ keys (putAll entries added) ↔ key ∈ keys entries ∨ key ∈ keys added := by
  induction added generalizing entries with
  | nil => simp [putAll]
  | cons pair rest ih =>
    have step : putAll entries (pair :: rest) = putAll (put entries pair.1 pair.2) rest := rfl
    rw [step, ih, mem_keys_put, keys_cons, List.mem_cons, or_assoc, or_left_comm]

theorem Distinct.put {entries : List (κ × α)} (distinct : Distinct entries) (key : κ) (value : α) :
    Distinct (put entries key value) := by
  unfold Distinct at *
  rw [keys_put]
  by_cases mem : key ∈ keys entries
  · simpa [mem] using distinct
  · simp only [mem, if_false]
    refine List.nodup_append.mpr ⟨distinct, by simp, ?_⟩
    intro a left b right eq
    simp only [List.mem_singleton] at right
    exact mem (right ▸ eq ▸ left)

theorem Distinct.putAll {entries : List (κ × α)} (distinct : Distinct entries)
    (added : List (κ × α)) :
    Distinct (putAll entries added) := by
  induction added generalizing entries with
  | nil => exact distinct
  | cons pair rest ih => exact ih (distinct.put pair.1 pair.2)

/-- A map built by writing pairs has no key twice. -/
theorem distinct_ofList (pairs : List (κ × α)) : Distinct (ofList pairs) :=
  Distinct.putAll (by simp [Distinct]) pairs

theorem mem_of_get? {entries : List (κ × α)} {key : κ} {value : α}
    (found : get? entries key = some value) :
    (key, value) ∈ entries := by
  induction entries with
  | nil => cases found
  | cons first rest ih =>
    rw [get?] at found
    split at found
    · rename_i same
      obtain rfl := Option.some.inj found
      rw [← same]
      exact List.mem_cons_self
    · exact List.mem_cons_of_mem _ (ih found)

theorem get?_of_mem {entries : List (κ × α)} (distinct : Distinct entries) {entry : κ × α}
    (member : entry ∈ entries) :
    get? entries entry.1 = some entry.2 := by
  induction entries with
  | nil => cases member
  | cons pair rest ih =>
    obtain ⟨new, others⟩ := List.nodup_cons.mp distinct
    rcases List.mem_cons.mp member with rfl | later
    · exact if_pos rfl
    · have ne : pair.1 ≠ entry.1 := by
        intro same
        exact new (same ▸ List.mem_map_of_mem later)
      exact (if_neg ne).trans (ih others later)

/-- The entries behind some others keep their values. -/
theorem get?_drop {entries : List (κ × α)} (distinct : Distinct entries) {n : Nat} {key : κ}
    (member : key ∈ keys (entries.drop n)) : get? (entries.drop n) key = get? entries key := by
  obtain ⟨value, found⟩ := Option.isSome_iff_exists.mp ((get?_isSome_iff _ _).mpr member)
  rw [found, get?_of_mem distinct (List.mem_of_mem_drop (mem_of_get? found))]

theorem mem_put {entries : List (κ × α)} {entry : κ × α} {key : κ} {value : α}
    (member : entry ∈ put entries key value) :
    entry ∈ entries ∨ entry = (key, value) := by
  induction entries with
  | nil => exact .inr (List.mem_singleton.mp member)
  | cons first rest ih =>
    rw [put] at member
    split at member
    · rename_i same
      rcases List.mem_cons.mp member with rfl | later
      · exact .inr (by rw [same])
      · exact .inl (List.mem_cons_of_mem _ later)
    · rcases List.mem_cons.mp member with rfl | later
      · exact .inl List.mem_cons_self
      · exact (ih later).imp_left (List.mem_cons_of_mem _)

theorem mem_putAll {entries added : List (κ × α)} {entry : κ × α}
    (member : entry ∈ putAll entries added) :
    entry ∈ entries ∨ entry ∈ added := by
  induction added generalizing entries with
  | nil => exact .inl member
  | cons pair rest ih =>
    rcases ih member with first | later
    · rcases mem_put first with kept | rfl
      · exact .inl kept
      · exact .inr List.mem_cons_self
    · exact .inr (List.mem_cons_of_mem _ later)

/-- Nothing is in a map but the pairs that are written into it. -/
theorem mem_ofList {added : List (κ × α)} {entry : κ × α} (member : entry ∈ ofList added) :
    entry ∈ added :=
  (mem_putAll member).resolve_left List.not_mem_nil

theorem mem_of_erase {entries : List (κ × α)} {entry : κ × α} {key : κ}
    (member : entry ∈ erase entries key) :
    entry ∈ entries := by
  induction entries with
  | nil => cases member
  | cons first rest ih =>
    rw [erase] at member
    split at member
    · exact List.mem_cons_of_mem _ (ih member)
    · rcases List.mem_cons.mp member with rfl | later
      · exact List.mem_cons_self
      · exact List.mem_cons_of_mem _ (ih later)

theorem put_of_not_mem {entries : List (κ × α)} {key : κ} (new : key ∉ keys entries) (value : α) :
    put entries key value = entries ++ [(key, value)] := by
  induction entries with
  | nil => rfl
  | cons first rest ih =>
    rw [keys_cons, List.mem_cons, not_or] at new
    rw [put, if_neg (Ne.symm new.1), ih new.2, List.cons_append]

/-- Pairs with different keys that are written behind each other stay as they are. -/
theorem putAll_of_distinct {entries added : List (κ × α)} (distinct : Distinct (entries ++ added)) :
    putAll entries added = entries ++ added := by
  induction added generalizing entries with
  | nil => exact (List.append_nil entries).symm
  | cons pair rest ih =>
    have apart : Distinct ((entries ++ [pair]) ++ rest) := by simpa using distinct
    have new : pair.1 ∉ keys entries := by
      intro member
      have disjoint := (List.nodup_append.mp (by simpa [Distinct, keys] using distinct)).2.2
      exact disjoint pair.1 member pair.1 List.mem_cons_self rfl
    have step : putAll entries (pair :: rest) = putAll (put entries pair.1 pair.2) rest := rfl
    rw [step, put_of_not_mem new, ih apart, List.append_assoc]
    rfl

/-- Pairs with different keys that are written add those of their keys that are not there, in their
order. -/
theorem keys_putAll {entries added : List (κ × α)} (distinct : Distinct added) :
    keys (putAll entries added) = keys entries ++ (keys added).filter (· ∉ keys entries) := by
  induction added generalizing entries with
  | nil => simp [putAll]
  | cons pair rest ih =>
    obtain ⟨new, others⟩ := List.nodup_cons.mp distinct
    have step : putAll entries (pair :: rest) = putAll (put entries pair.1 pair.2) rest := rfl
    rw [step, ih others, keys_put]
    by_cases known : pair.1 ∈ keys entries
    · simp [known]
    · have apart : ∀ key ∈ keys rest,
          decide (key ∉ keys entries ++ [pair.1]) = decide (key ∉ keys entries) := by
        intro key member
        have ne : key ≠ pair.1 := fun same => new (same ▸ member)
        simp [ne]
      rw [if_neg known, List.filter_congr apart, keys_cons,
        List.filter_cons_of_pos (by simpa using known)]
      exact List.append_assoc _ _ _

theorem ofList_of_distinct {entries : List (κ × α)} (distinct : Distinct entries) :
    ofList entries = entries :=
  putAll_of_distinct distinct

/-- Of several pairs with one key the last one counts. -/
theorem get?_putAll (entries added : List (κ × α)) (key : κ) :
    get? (putAll entries added) key =
      ((added.filter (·.1 = key)).getLast?.map Prod.snd).or (get? entries key) := by
  induction added generalizing entries with
  | nil => rfl
  | cons pair rest ih =>
    have step : putAll entries (pair :: rest) = putAll (put entries pair.1 pair.2) rest := rfl
    rw [step, ih, get?_put]
    by_cases same : pair.1 = key
    · cases last : (rest.filter (·.1 = key)).getLast? <;> simp [same, last, List.getLast?_cons]
    · simp [same]

theorem get?_ofList (pairs : List (κ × α)) (key : κ) :
    get? (ofList pairs) key = (pairs.filter (·.1 = key)).getLast?.map Prod.snd := by
  rw [ofList, get?_putAll, get?_nil, Option.or_none]

end BotScript.Entries
