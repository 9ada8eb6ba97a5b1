import BotScript.Proofs.Number.Numerals

/-! The digits of a text. When all of them have values and nowhere too many stand next to each
other, the same holds of every part of the text, and every number in it is a numeral. -/

namespace BotScript.Number

/-- All digits in a text have values, and nowhere more of them stand next to each other than are
converted. -/
def Convertible (chars : List Char) : Prop :=
  ∀ run, run <:+: chars → (∀ c ∈ run, Text.isDigit c) → (∀ c ∈ run, isDecimal c) ∧
    run.length ≤ digitLimit

/-- The same, with the number of digits that stand in front of the text. -/
def Counted : Nat → List Char → Prop
  | _, [] => True
  | before, c :: rest =>
    if Text.isDigit c then isDecimal c ∧ before < digitLimit ∧
      Counted (before + 1) rest else Counted 0 rest

variable {before fewer : Nat} {c : Char} {chars rest front back run : List Char}

instance decidableCounted : (before : Nat) → (chars : List Char) → Decidable (Counted before chars)
  | _, [] => .isTrue trivial
  | before, c :: rest =>
    have := decidableCounted (before + 1) rest
    have := decidableCounted 0 rest
    inferInstanceAs (Decidable (if Text.isDigit c then isDecimal c ∧ before < digitLimit ∧
      Counted (before + 1) rest
      else Counted 0 rest))

theorem counted_digit (digit : Text.isDigit c) :
    Counted before (c :: rest) ↔ isDecimal c ∧ before < digitLimit ∧ Counted (before + 1) rest := by
  rw [Counted, if_pos digit]

@[simp] theorem counted_other (other : Text.isDigit c = false) :
    Counted before (c :: rest) ↔ Counted 0 rest := by
  rw [Counted, if_neg (by simp [other])]

theorem Counted.mono (counted : Counted before chars) (less : fewer ≤ before) :
    Counted fewer chars := by
  induction chars generalizing before fewer with
  | nil => trivial
  | cons c rest ih =>
    by_cases digit : Text.isDigit c
    · obtain ⟨decimal, few, more⟩ := (counted_digit digit).mp counted
      exact (counted_digit digit).mpr ⟨decimal, by omega, ih more (by omega)⟩
    · rw [counted_other (by simpa using digit)] at counted ⊢
      exact counted

theorem Counted.tail (counted : Counted before (c :: rest)) : Counted 0 rest := by
  by_cases digit : Text.isDigit c
  · exact ((counted_digit digit).mp counted).2.2.mono (Nat.zero_le _)
  · exact (counted_other (by simpa using digit)).mp counted

/-- A text goes on as it did, behind its first character. -/
theorem Counted.behind {others : List Char} (counted : Counted before (c :: rest))
    (keep : ∀ count, Counted count rest → Counted count others) : Counted before (c :: others) := by
  by_cases digit : Text.isDigit c
  · obtain ⟨decimal, few, more⟩ := (counted_digit digit).mp counted
    exact (counted_digit digit).mpr ⟨decimal, few, keep _ more⟩
  · rw [counted_other (by simpa using digit)] at counted ⊢
    exact keep 0 counted

theorem Counted.left (counted : Counted before (front ++ back)) : Counted before front := by
  induction front generalizing before with
  | nil => trivial
  | cons c front ih =>
    rw [List.cons_append] at counted
    exact counted.behind fun _ more => ih more

theorem Counted.right (counted : Counted before (front ++ back)) : Counted 0 back := by
  induction front generalizing before with
  | nil => exact counted.mono (Nat.zero_le _)
  | cons c front ih => exact ih counted.tail

/-- What holds of a text holds of its parts. -/
theorem Counted.part (counted : Counted before chars) (part : run <:+: chars) : Counted 0 run := by
  obtain ⟨front, back, rfl⟩ := part
  exact counted.left.right

theorem Counted.digits (counted : Counted before run) (digits : ∀ c ∈ run, Text.isDigit c)
    (nonempty : run ≠ []) :
    (∀ c ∈ run, isDecimal c) ∧ before + run.length ≤ digitLimit := by
  induction run generalizing before with
  | nil => exact absurd rfl nonempty
  | cons c rest ih =>
    obtain ⟨decimal, few, more⟩ := (counted_digit (digits c List.mem_cons_self)).mp counted
    by_cases last : rest = []
    · subst last
      exact ⟨by simpa using decimal, few⟩
    · obtain ⟨others, limit⟩ :=
        ih more (fun d member => digits d (List.mem_cons_of_mem _ member)) last
      refine ⟨fun d member => ?_, by rw [List.length_cons]; omega⟩
      rcases List.mem_cons.mp member with rfl | member
      · exact decimal
      · exact others d member

private theorem counted_of_runs
      (prefixes : ∀ run, run <+: chars → (∀ c ∈ run, Text.isDigit c) → run ≠ [] →
    before + run.length ≤ digitLimit) (convertible : Convertible chars) : Counted before chars := by
  induction chars generalizing before with
  | nil => trivial
  | cons c rest ih =>
    have later : Convertible rest :=
      fun run part => convertible run (part.trans (List.suffix_cons c rest).isInfix)
    by_cases digit : Text.isDigit c
    · have single := convertible [c] (List.prefix_append [c] rest).isInfix (by simpa using digit)
      have first := prefixes [c] (List.prefix_append [c] rest) (by simpa using digit) (by simp)
      refine (counted_digit digit).mpr ⟨single.1 c List.mem_cons_self, first, ih ?_ later⟩
      intro run part digits _
      have whole := prefixes (c :: run) (List.prefix_cons_inj c |>.mpr part)
        (by simpa using ⟨digit, digits⟩) (by simp)
      rw [List.length_cons] at whole
      omega
    · refine (counted_other (by simpa using digit)).mpr (ih ?_ later)
      intro run part digits _
      rw [Nat.zero_add]
      exact (later run part.isInfix digits).2

/-- Counting the digits next to each other on the way through a text comes to the same. -/
theorem convertible_iff : Convertible chars ↔ Counted 0 chars := by
  constructor
  · intro convertible
    refine counted_of_runs (fun run part digits _ => ?_) convertible
    rw [Nat.zero_add]
    exact (convertible run part.isInfix digits).2
  · intro counted run part digits
    by_cases empty : run = []
    · subst empty
      simp
    · simpa using (counted.part part).digits digits empty

/-- The digits that a text starts with. -/
theorem Counted.takeWhile (counted : Counted before (chars.takeWhile Text.isDigit))
    (nonempty : chars.takeWhile Text.isDigit ≠ []) :
    Digits (chars.takeWhile Text.isDigit) ∧
    before + (chars.takeWhile Text.isDigit).length ≤ digitLimit := by
  obtain ⟨decimal, few⟩ := counted.digits (List.all_eq_true.mp List.all_takeWhile) nonempty
  exact ⟨⟨nonempty, decimal⟩, few⟩

instance (chars : List Char) : Decidable (Convertible chars) :=
  decidable_of_iff _ convertible_iff.symm

end BotScript.Number
