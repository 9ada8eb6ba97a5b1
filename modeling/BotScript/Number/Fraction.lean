import BotScript.Number.Reading

/-!
Fractions read from text: two integers with a slash between them, or a decimal number that is meant
exactly.
-/

namespace BotScript.Number

/-- The fraction `significand · 10^exponent`. -/
def scaledFraction (significand : Int) (exponent : Int) : Rat :=
  if 0 ≤ exponent then mkRat (significand * (Nat.pow 10 exponent.toNat : Nat)) 1
  else mkRat significand (Nat.pow 10 (-exponent).toNat)

/-- The denominator that the rest of a fraction is. -/
def denominator? (chars : List Char) : Option Nat :=
  match digitRun 0 0 chars with
  | (_, 0, _) => none
  | (value, _, []) => if value = 0 then none else some value
  | _ => none

/-- The fraction that the whole text is. -/
def readFraction? (chars : List Char) : Option Rat :=
  let (negative, rest) := signOf (Text.trim chars)
  let signed (n : Nat) : Int := if negative then -(n : Int) else n
  let (whole, wholeCount, rest) := digitRun 0 0 rest
  match rest with
  | '/' :: below => if wholeCount = 0 then none else (denominator? below).map (mkRat (signed whole))
  | _ =>
    let (value, fractionCount, rest) := fractionRun whole rest
    if wholeCount + fractionCount = 0 then none
    else (exponent? rest).map fun exponent =>
      scaledFraction (signed value) (exponent - fractionCount)

end BotScript.Number
