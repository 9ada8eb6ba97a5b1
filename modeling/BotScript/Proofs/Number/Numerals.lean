import BotScript.Number.Reading
import Mathlib.Tactic.ByContra
import Mathlib.Tactic.IntervalCases

/-! Numerals of decimal digits are numbers. Digits of any script will do, as long as each of them
has a value and, for integers, there are not more of them than are converted. -/

namespace BotScript.Text

/-- The blanks beyond ASCII. -/
def wideBlanks : List Nat :=
  [0x85, 0xa0, 0x1680] ++ List.range' 0x2000 11 ++ [0x2028, 0x2029, 0x202f, 0x205f, 0x3000]

theorem blank_listed {c : Char} (blank : isBlank c) (beyond : 0x80 ≤ c.toNat) :
    c.toNat ∈ wideBlanks := by
  simp only [isBlank, Bool.or_eq_true, Bool.and_eq_true, decide_eq_true_eq] at blank
  simp only [wideBlanks, List.mem_append, List.mem_range'_1, List.mem_cons, List.not_mem_nil]
  omega

end BotScript.Text

namespace BotScript.Number

open Text

/-- The character is a digit with a value. -/
def isDecimal (c : Char) : Bool :=
  (decimalValue? c).isSome

/-- Some digits, all with values. -/
structure Digits (chars : List Char) : Prop where
  nonempty : chars ≠ []
  decimal : ∀ c ∈ chars, isDecimal c

/-- A minus sign or none. -/
def IsSign (chars : List Char) : Prop :=
  chars = [] ∨ chars = ['-']

/-- A decimal numeral: digits that are few enough to be converted, or digits around a point, behind
a sign if there is one. -/
inductive IsNumeral : List Char → Prop
  | integer {sign digits : List Char} (signed : IsSign sign) (whole : Digits digits)
      (few : digits.length ≤ digitLimit) : IsNumeral (sign ++ digits)
  | fraction {sign digits more : List Char} (signed : IsSign sign) (whole : Digits digits)
      (part : Digits more) :
      IsNumeral (sign ++ (digits ++ '.' :: more))

/-- No digit with a value is a blank. -/
theorem not_blank_of_decimal {c : Char} (decimal : isDecimal c) : isBlank c = false := by
  by_contra blank
  rw [Bool.not_eq_false] at blank
  unfold isDecimal decimalValue? at decimal
  by_cases ascii : c.toNat < 0x80
  · have digit : c.isDigit := by
      by_contra other
      simp [ascii, other] at decimal
    simp only [Char.isDigit, Bool.and_eq_true, decide_eq_true_eq, ge_iff_le] at digit
    have low : '0'.toNat ≤ c.toNat := digit.1
    have high : c.toNat ≤ '9'.toNat := digit.2
    simp only [isBlank, Bool.or_eq_true, Bool.and_eq_true, decide_eq_true_eq] at blank
    have zero : '0'.toNat = 48 := rfl
    have nine : '9'.toNat = 57 := rfl
    omega
  · have unlisted : ∀ code ∈ wideBlanks,
        decimalRanges.find? (fun range => range.1 ≤ code && code ≤ range.2) = none := by decide
    simp [ascii, unlisted _ (blank_listed blank (by omega))] at decimal

theorem not_margin_of_decimal {c : Char} (decimal : isDecimal c) : isMargin c = false := by
  simp [isMargin, not_blank_of_decimal decimal]

/-- Nothing is cut off where no blank stands at either end. -/
theorem withoutMargin_of_ends {chars : List Char} (first : ∀ c ∈ chars.head?, isMargin c = false)
    (last : ∀ c ∈ chars.getLast?, isMargin c = false) : withoutMargin chars = chars := by
  have front : chars.dropWhile isMargin = chars := by
    cases chars with
    | nil => rfl
    | cons c rest => simp [first c rfl]
  have back : chars.reverse.dropWhile isMargin = chars.reverse := by
    cases same : chars.reverse with
    | nil => rfl
    | cons c rest =>
      have tail : chars.getLast? = some c := by rw [List.getLast?_eq_head?_reverse, same]; rfl
      simp [last c tail]
  rw [withoutMargin, front, back, List.reverse_reverse]

/-- Decimal digits are read to their end. -/
theorem digitRun_append {digits : List Char} (decimal : ∀ c ∈ digits, isDecimal c)
    (rest : List Char) (value count : Nat) :
    ∃ total, digitRun value count (digits ++ rest) =
      digitRun total (count + digits.length) rest := by
  induction digits generalizing value count with
  | nil => exact ⟨value, rfl⟩
  | cons c digits ih =>
    obtain ⟨d, valued⟩ := Option.isSome_iff_exists.mp (decimal c List.mem_cons_self)
    obtain ⟨total, run⟩ :=
      ih (fun c member => decimal c (List.mem_cons_of_mem _ member)) (value * 10 + d) (count + 1)
    refine ⟨total, ?_⟩
    rw [List.cons_append, digitRun.eq_def]
    simp only [valued, run, List.length_cons]
    congr 1
    omega

theorem digitRun_digits {digits : List Char} (decimal : ∀ c ∈ digits, isDecimal c) (value : Nat) :
    ∃ total, digitRun value 0 digits = (total, digits.length, []) := by
  obtain ⟨total, run⟩ := digitRun_append decimal [] value 0
  refine ⟨total, ?_⟩
  rw [List.append_nil] at run
  rw [run, digitRun, Nat.zero_add]

private theorem minus_not_decimal : isDecimal '-' = false := by decide

private theorem plus_not_decimal : isDecimal '+' = false := by decide

private theorem point_not_decimal : decimalValue? '.' = none := by decide

/-- There is no point in an integer numeral. -/
theorem not_dotted_of_digits {sign digits : List Char} (signed : IsSign sign)
    (whole : Digits digits) :
    (sign ++ digits).contains '.' = false := by
  have missing : '.' ∉ digits :=
    fun member => by simpa [isDecimal, point_not_decimal] using whole.decimal _ member
  rcases signed with rfl | rfl <;> simpa using missing

/-- The sign is told apart from the digits. -/
theorem signOf_append {sign rest : List Char} (signed : IsSign sign)
    (digits : ∀ c ∈ rest.head?, isDecimal c) :
    ∃ negative, signOf (sign ++ rest) = (negative, rest) := by
  rcases signed with rfl | rfl
  · refine ⟨false, ?_⟩
    rw [List.nil_append]
    unfold signOf
    split
    · exact absurd (digits '-' rfl) (by simp [minus_not_decimal])
    · exact absurd (digits '+' rfl) (by simp [plus_not_decimal])
    · rfl
  · exact ⟨true, rfl⟩

private theorem head_of_digits {digits : List Char} (whole : Digits digits) (more : List Char) :
    ∀ c ∈ (digits ++ more).head?, isDecimal c := by
  intro c first
  cases digits with
  | nil => exact absurd rfl whole.nonempty
  | cons d rest =>
    obtain rfl := Option.some.inj first
    exact whole.decimal d List.mem_cons_self

private theorem getLast?_behind {front back : List Char} (nonempty : back ≠ []) :
    (front ++ back).getLast? = back.getLast? := by
  rw [List.getLast?_append, List.getLast?_eq_some_getLast nonempty, Option.some_or]

private theorem margin_of_numeral {sign digits : List Char} (signed : IsSign sign)
    (first : ∀ c ∈ digits.head?, isDecimal c) (last : ∀ c ∈ digits.getLast?, isDecimal c)
    (nonempty : digits ≠ []) :
    withoutMargin (sign ++ digits) = sign ++ digits := by
  apply withoutMargin_of_ends
  · intro c front
    rcases signed with rfl | rfl
    · exact not_margin_of_decimal (first c front)
    · obtain rfl := Option.some.inj front
      decide
  · intro c back
    rw [getLast?_behind nonempty] at back
    exact not_margin_of_decimal (last c back)

private theorem readInt_append {sign digits : List Char} (signed : IsSign sign)
    (whole : Digits digits) :
    ∃ n, readInt (sign ++ digits) =
      if digitLimit < digits.length then .error (.tooLong digits.length) else .ok n := by
  have first : ∀ c ∈ digits.head?, isDecimal c :=
    fun c front => whole.decimal c (List.mem_of_mem_head? front)
  have last : ∀ c ∈ digits.getLast?, isDecimal c :=
    fun c back => whole.decimal c (List.mem_of_mem_getLast? back)
  obtain ⟨negative, split⟩ := signOf_append signed first
  obtain ⟨total, run⟩ := digitRun_digits whole.decimal 0
  have counted : digits.length ≠ 0 := by simpa using whole.nonempty
  unfold readInt
  rw [margin_of_numeral signed first last whole.nonempty, split]
  refine ⟨if negative then -(total : Int) else total, ?_⟩
  simp [run, counted]

/-- An integer numeral is an integer. -/
theorem readInt_of_digits {sign digits : List Char} (signed : IsSign sign) (whole : Digits digits)
    (few : digits.length ≤ digitLimit) : ∃ n, readInt (sign ++ digits) = .ok n := by
  obtain ⟨n, read⟩ := readInt_append signed whole
  exact ⟨n, by rw [read, if_neg (Nat.not_lt.mpr few)]⟩

/-- More digits than are converted are no integer. -/
theorem readInt_of_many {sign digits : List Char} (signed : IsSign sign) (whole : Digits digits)
    (many : digitLimit < digits.length) :
    readInt (sign ++ digits) = .error (.tooLong digits.length) := by
  obtain ⟨n, read⟩ := readInt_append signed whole
  rw [read, if_pos many]

private theorem named?_of_point {chars : List Char} (point : '.' ∈ chars) :
    named? chars = none := by
  have kept : '.' ∈ chars.map Char.toLower := List.mem_map.mpr ⟨'.', point, rfl⟩
  have other : ∀ name : List Char, '.' ∉ name → chars.map Char.toLower ≠ name := by
    rintro name missing rfl
    exact missing kept
  have first : chars.map Char.toLower ≠ "inf".toList := other _ (by simp)
  have second : chars.map Char.toLower ≠ "infinity".toList := other _ (by simp)
  have third : chars.map Char.toLower ≠ "nan".toList := other _ (by simp)
  unfold named?
  simp only [first, second, third, decide_false, Bool.or_self, if_false, Bool.false_eq_true]

/-- A numeral with a point is a number. -/
theorem readFloat?_of_fraction {sign digits more : List Char} (signed : IsSign sign)
    (whole : Digits digits) (part : Digits more) :
    ∃ x, readFloat? (sign ++ (digits ++ '.' :: more)) = some x := by
  have first := head_of_digits whole ('.' :: more)
  have last : ∀ c ∈ (digits ++ '.' :: more).getLast?, isDecimal c := by
    intro c back
    rw [getLast?_behind (List.cons_ne_nil _ _), List.getLast?_cons_of_ne_nil part.nonempty] at back
    exact part.decimal c (List.mem_of_mem_getLast? back)
  obtain ⟨negative, split⟩ := signOf_append signed first
  obtain ⟨total, run⟩ := digitRun_append whole.decimal ('.' :: more) 0 0
  obtain ⟨value, rest⟩ := digitRun_digits part.decimal total
  have stops : digitRun total (0 + digits.length) ('.' :: more) =
      (total, digits.length, '.' :: more) := by
    obtain ⟨d, tail, rfl⟩ := List.exists_cons_of_ne_nil part.nonempty
    simp [digitRun, point_not_decimal]
  have counted : digits.length + more.length ≠ 0 := by
    have := whole.nonempty
    simp_all
  have unnamed : named? (digits ++ '.' :: more) = none := named?_of_point (by simp)
  unfold readFloat?
  rw [margin_of_numeral signed first last (by simp), split]
  simp only [unnamed, run, stops, fractionRun, rest, counted, exponent?]
  exact ⟨_, rfl⟩

end BotScript.Number
