import BotScript.Number.Binary64

/-!
Decimal texts of double precision numbers. A magnitude is first turned into decimal digits, either
the fewest that read back as the same number or a fixed count of them, and then laid out; everything
that differs between outputs is in the layout.
-/

namespace BotScript

/-- The value `significand · 10^exponent`. -/
structure Decimal where
  significand : Nat
  exponent : Int
deriving DecidableEq, Repr

namespace Decimal

/-- Decimal digits of a natural number, most significant first. -/
def digits (n : Nat) : List Char :=
  Nat.toDigits 10 n

/-- The same value without zeros at the end of the significand; `fuel` bounds the number of
zeros. -/
def trimmed : Nat → Decimal → Decimal
  | 0, d => d
  | fuel + 1, d =>
    if d.significand ≠ 0 ∧ d.significand % 10 = 0 then
      trimmed fuel ⟨d.significand / 10, d.exponent + 1⟩ else d

/-- The exponent of the leading decimal digit of a positive count of units. One unit exceeds
4·10^-324, so `units · 10^324` has a whole part that is not zero. -/
def leadingExponent (units : Nat) : Int :=
  ((digits (units * Nat.pow 10 324 / Binary64.one)).length : Int) - 325

/-- `units` measured in steps of `10^exponent`, as a fraction. -/
def inSteps (units : Nat) (exponent : Int) : Nat × Nat :=
  if 0 ≤ exponent then (units, Binary64.one * Nat.pow 10 exponent.toNat)
  else (units * Nat.pow 10 (-exponent).toNat, Binary64.one)

/-- The interval of reals that round to a representable positive count of units, in quarters of a
unit, and whether its ends belong to it. Below a power of two the neighbours are twice as close. -/
def roundingInterval (units : Nat) : Nat × Nat × Bool :=
  let shift := Binary64.excess units
  let significand := units / Nat.pow 2 shift
  let below := if significand = Nat.pow 2 52 ∧ 0 < shift then Nat.pow 2 shift
    else 2 * Nat.pow 2 shift
  (4 * units - below, 4 * units + 2 * Nat.pow 2 shift, significand % 2 = 0)

/-- `candidate` steps of `10^exponent` read back as `units`. -/
def readsBack (units candidate : Nat) (exponent : Int) : Bool :=
  let (low, high, closed) := roundingInterval units
  let (value, scale) :=
    if 0 ≤ exponent then (4 * candidate * Binary64.one * Nat.pow 10 exponent.toNat, 1)
    else (4 * candidate * Binary64.one, Nat.pow 10 (-exponent).toNat)
  if closed then low * scale ≤ value && value ≤ high * scale
  else low * scale < value && value < high * scale

/-- The decimal with steps of `10^exponent` that reads back as `units`, the nearer one when both
neighbours do. -/
def onGrid? (units : Nat) (exponent : Int) : Option Decimal :=
  let (numerator, denominator) := inSteps units exponent
  let low := numerator / denominator
  match readsBack units low exponent, readsBack units (low + 1) exponent with
  | true, true => some ⟨Binary64.roundHalfEven numerator denominator, exponent⟩
  | true, false => some ⟨low, exponent⟩
  | false, true => some ⟨low + 1, exponent⟩
  | false, false => none

/-- The decimal with the fewest digits that reads back as a positive count of units. Seventeen
digits always do. -/
def shortest (units : Nat) : Decimal :=
  let leading := leadingExponent units
  let found := (List.range 17).findSome? fun count : Nat => onGrid? units (leading - count)
  trimmed 400 (found.getD ⟨units, -1074⟩)

/-- A positive count of units rounded to `count` significant digits, a half going to the even
neighbour. -/
def rounded (count : Nat) (units : Nat) : Decimal :=
  let exponent := leadingExponent units - (count - 1 : Nat)
  let (numerator, denominator) := inSteps units exponent
  trimmed 400 ⟨Binary64.roundHalfEven numerator denominator, exponent⟩

/-- The decisions of a number format. -/
structure Layout where
  /-- The least exponent of the leading digit that is written without an exponent part. -/
  positionalFrom : Int
  /-- The first exponent of the leading digit that is written with an exponent part. -/
  scientificFrom : Int
  /-- A whole number keeps a point and one zero. -/
  keepsPoint : Bool
  noNumber : String
  infinity : String
deriving Repr

/-- The exponent part: its sign always stands and it has at least two digits. -/
def exponentPart (exponent : Int) : List Char :=
  let digits := digits exponent.natAbs
  'e' :: (if exponent < 0 then '-' else '+') :: List.replicate (2 - digits.length) '0' ++ digits

/-- A decimal without zeros at the end, laid out. -/
def layOut (layout : Layout) (d : Decimal) : List Char :=
  let ds := digits d.significand
  let leading := d.exponent + (ds.length - 1 : Nat)
  if layout.positionalFrom ≤ leading ∧ leading < layout.scientificFrom then
    if 0 ≤ d.exponent then
      ds ++ List.replicate d.exponent.toNat '0' ++ (if layout.keepsPoint then ['.', '0'] else [])
    else if 0 ≤ leading then
      ds.take (leading.toNat + 1) ++ '.' :: ds.drop (leading.toNat + 1)
    else
      '0' :: '.' :: List.replicate ((-leading).toNat - 1) '0' ++ ds
  else
    (match ds with
      | [] => []
      | [d] => [d]
      | d :: rest => d :: '.' :: rest) ++ exponentPart leading

end Decimal

namespace Binary64

/-- The text of a number whose magnitude is turned into digits by `digitsOf`. -/
def textWith (layout : Decimal.Layout) (digitsOf : Nat → Decimal) : Binary64 → String
  | nan => layout.noNumber
  | infinite negative => (if negative then "-" else "") ++ layout.infinity
  | finite negative units =>
    let magnitude := if units = 0 then ⟨0, 0⟩ else digitsOf units
    (if negative then "-" else "") ++ String.ofList (Decimal.layOut layout magnitude)

/-- Numbers in values and messages are positional from 0.0001 up to 10^16 and keep a point. -/
def plainLayout : Decimal.Layout := ⟨-4, 16, true, "nan", "inf"⟩

/-- Numbers inside written data, where the values that are not finite have long names. -/
def dataLayout : Decimal.Layout := ⟨-4, 16, true, "NaN", "Infinity"⟩

/-- Limits in messages have at most six digits and no needless point. -/
def briefLayout : Decimal.Layout := ⟨-4, 6, false, "nan", "inf"⟩

/-- The shortest text that reads back as the number. -/
def text (a : Binary64) : String :=
  a.textWith plainLayout Decimal.shortest

/-- The text of a number inside written data. -/
def dataText (a : Binary64) : String :=
  a.textWith dataLayout Decimal.shortest

/-- The text of a number with six significant digits. -/
def briefText (a : Binary64) : String :=
  a.textWith briefLayout (Decimal.rounded 6)

end Binary64

end BotScript
