import BotScript.Number.Decimal
import BotScript.Number.Reading

/-!
Exact decimal numbers, which keep the digits with which they were written. Some are no numbers;
those may carry digits that tell why, and may ask to be noticed instead of being computed with.
-/

namespace BotScript

/-- An exact decimal number. `finite` has the magnitude `coefficient · 10^exponent`. -/
inductive ExactDecimal
  | finite (negative : Bool) (coefficient : Nat) (exponent : Int)
  | infinite (negative : Bool)
  | nan (negative signaling : Bool) (payload : Nat)
deriving DecidableEq, Repr

namespace ExactDecimal

/-! ## Reading -/

/-- The characters of a number: blanks around it and underscores do not count. -/
def significant (chars : List Char) : List Char :=
  (Text.trim chars).filter (· ≠ '_')

/-- The digits behind the name of what is no number, which may have none. -/
def payload? (chars : List Char) : Option Nat :=
  match Number.digitRun 0 0 chars with
  | (value, _, []) => some value
  | _ => none

/-- What a name stands for, perhaps with digits behind it. -/
def named? (negative : Bool) (chars : List Char) : Option ExactDecimal :=
  let word := chars.map Char.toLower
  if word = "inf".toList || word = "infinity".toList then some (.infinite negative)
  else if "nan".toList.isPrefixOf word then (payload? (word.drop 3)).map (.nan negative false)
  else if "snan".toList.isPrefixOf word then (payload? (word.drop 4)).map (.nan negative true)
  else none

/-- The number that digits are, with a point anywhere among them and perhaps an exponent. -/
def digits? (negative : Bool) (chars : List Char) : Option ExactDecimal :=
  let (whole, wholeCount, rest) := Number.digitRun 0 0 chars
  let (coefficient, fractionCount, rest) := Number.fractionRun whole rest
  if wholeCount + fractionCount = 0 then none
  else (Number.exponent? rest).map fun exponent =>
    .finite negative coefficient (exponent - fractionCount)

/-- The number that the whole text is. -/
def read? (chars : List Char) : Option ExactDecimal :=
  let (negative, rest) := Number.signOf (significant chars)
  (named? negative rest).orElse fun _ => digits? negative rest

/-! ## Writing -/

/-- Digits with a point in front of all but the first `leading` of them. -/
def positional (ds : List Char) (leading : Int) : List Char :=
  if leading ≤ 0 then '0' :: '.' :: List.replicate (-leading).toNat '0' ++ ds
  else
    match ds.drop leading.toNat with
    | [] => ds
    | fraction => ds.take leading.toNat ++ '.' :: fraction

/-- Digits with a point behind the first one and the exponent of that digit. -/
def scientific (ds : List Char) (exponent : Int) : List Char :=
  let sign := if exponent < 0 then '-' else '+'
  let fraction := if ds.length ≤ 1 then [] else '.' :: ds.drop 1
  ds.take 1 ++ fraction ++ 'E' :: sign :: Decimal.digits exponent.natAbs

/-- A magnitude, with an exponent when it has zeros behind its digits or more than five in front of
them. -/
def magnitude (coefficient : Nat) (exponent : Int) : List Char :=
  let ds := Decimal.digits coefficient
  let leading := exponent + ds.length
  if exponent ≤ 0 ∧ -6 < leading then positional ds leading else scientific ds (leading - 1)

/-- The sign is set. -/
def isNegative : ExactDecimal → Bool
  | finite negative .. | infinite negative | nan negative .. => negative

/-- The text of a number without its sign. -/
def unsignedText : ExactDecimal → String
  | finite _ coefficient exponent => String.ofList (magnitude coefficient exponent)
  | infinite _ => "Infinity"
  | nan _ signaling payload =>
    (if signaling then "sNaN" else "NaN") ++ (if payload = 0 then "" else toString payload)

/-- The text of a number. -/
def text (x : ExactDecimal) : String :=
  (if x.isNegative then "-" else "") ++ x.unsignedText

/-- The double precision number nearest to a number. -/
def toBinary64 : ExactDecimal → Binary64
  | finite negative coefficient exponent =>
    Number.scaled negative coefficient (Decimal.digits coefficient).length exponent
  | infinite negative => .infinite negative
  | nan .. => .nan

def isZero : ExactDecimal → Bool
  | finite _ coefficient _ => coefficient = 0
  | _ => false

end ExactDecimal

end BotScript
