/-!
Double precision numbers. Every finite one is a whole multiple of the least positive one, 2^-1074,
so a finite number is a sign and a count of such units; a count is representable when it has at most
53 significant bits and lies below 2^2098. All arithmetic is exact arithmetic on counts followed by
one rounding to the nearest representable count, ties going to the even significand.
-/

namespace BotScript

/-- A double precision number. `finite negative units` has the magnitude `units · 2^-1074`. -/
inductive Binary64
  | finite (negative : Bool) (units : Nat)
  | infinite (negative : Bool)
  | nan
deriving DecidableEq, Repr

namespace Binary64

/-- The number of units in the number one. -/
def one : Nat := Nat.pow 2 1074

/-- The first count of units that is too large for a finite number. -/
def tooLarge : Nat := Nat.pow 2 2098

/-- `numerator / denominator` rounded to a whole number, a half going to the even neighbour. -/
def roundHalfEven (numerator denominator : Nat) : Nat :=
  let quotient := numerator / denominator
  let twice := 2 * (numerator % denominator)
  if twice < denominator then quotient
  else if denominator < twice then quotient + 1
  else if quotient % 2 = 0 then quotient
  else quotient + 1

/-- The exponent of the last of 53 significant bits of a count. -/
def excess (units : Nat) : Nat :=
  units.log2 - 52

/-- `numerator / denominator` units rounded to 53 significant bits. -/
def roundUnits (numerator denominator : Nat) : Nat :=
  let shift := excess (numerator / denominator)
  roundHalfEven numerator (denominator * Nat.pow 2 shift) * Nat.pow 2 shift

/-- The number nearest to `numerator / denominator` units. -/
def ofUnits (negative : Bool) (numerator denominator : Nat) : Binary64 :=
  let units := roundUnits numerator denominator
  if units < tooLarge then finite negative units else infinite negative

/-- The number nearest to a fraction. -/
def ofFraction (negative : Bool) (numerator denominator : Nat) : Binary64 :=
  ofUnits negative (numerator * one) denominator

/-- The number nearest to an integer. -/
def ofInt (n : Int) : Binary64 :=
  ofFraction (n < 0) n.natAbs 1

/-- Zero without a sign. -/
def zero : Binary64 := finite false 0

/-- The signed count of units of a finite number. -/
def signedUnits (negative : Bool) (units : Nat) : Int :=
  if negative then -(units : Int) else units

/-- The integer that a number equals, if it equals one. -/
def toInt? : Binary64 → Option Int
  | finite negative units =>
    if units % one = 0 then some (signedUnits negative (units / one)) else none
  | _ => none

/-- The sign is set. -/
def isNegative : Binary64 → Bool
  | finite negative _ => negative
  | infinite negative => negative
  | nan => false

def neg : Binary64 → Binary64
  | finite negative units => finite (!negative) units
  | infinite negative => infinite (!negative)
  | nan => nan

/-- Sum. A sum of zeros is negative only when both are; any other sum that vanishes is positive. -/
def add : Binary64 → Binary64 → Binary64
  | finite n a, finite m b =>
    let total := signedUnits n a + signedUnits m b
    if total = 0 then finite (n && m) 0 else ofUnits (total < 0) total.natAbs 1
  | infinite n, infinite m => if n = m then infinite n else nan
  | infinite n, finite _ _ => infinite n
  | finite _ _, infinite m => infinite m
  | nan, _ => nan
  | _, nan => nan

def sub (a b : Binary64) : Binary64 :=
  add a b.neg

def mul : Binary64 → Binary64 → Binary64
  | finite n a, finite m b => ofUnits (n != m) (a * b) one
  | infinite n, infinite m => infinite (n != m)
  | infinite n, finite m b => if b = 0 then nan else infinite (n != m)
  | finite n a, infinite m => if a = 0 then nan else infinite (n != m)
  | nan, _ => nan
  | _, nan => nan

/-- Quotient. Division by zero gives an infinity, or no number when zero is divided. -/
def div : Binary64 → Binary64 → Binary64
  | finite n a, finite m b =>
    if b = 0 then (if a = 0 then nan else infinite (n != m)) else ofFraction (n != m) a b
  | infinite _, infinite _ => nan
  | infinite n, finite m _ => infinite (n != m)
  | finite n _, infinite m => finite (n != m) 0
  | nan, _ => nan
  | _, nan => nan

/-- The order of the numbers; nothing is less than, or greater than, the value that is no number. -/
def lt : Binary64 → Binary64 → Bool
  | finite n a, finite m b => signedUnits n a < signedUnits m b
  | infinite n, infinite m => n && !m
  | infinite n, finite _ _ => n
  | finite _ _, infinite m => !m
  | nan, _ => false
  | _, nan => false

/-- Equality of the numbers: the two zeros are equal and the value that is no number equals
nothing. -/
def eq : Binary64 → Binary64 → Bool
  | finite n a, finite m b => signedUnits n a = signedUnits m b
  | infinite n, infinite m => n = m
  | _, _ => false

def le (a b : Binary64) : Bool :=
  a.lt b || a.eq b

/-- The greater of a number and zero; the value that is no number stays. -/
def atLeastZero (a : Binary64) : Binary64 :=
  if a.lt zero then zero else a

/-- The number equals an integer exactly. -/
def eqInt (a : Binary64) (n : Int) : Bool :=
  match a with
  | finite negative units => signedUnits negative units = n * one
  | _ => false

end Binary64

end BotScript
