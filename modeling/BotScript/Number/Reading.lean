import BotScript.Number.Binary64
import BotScript.Text.CharClass

/-!
Numbers read from text: digits of any script, one underscore between two digits, blanks around the
number. What is not a number as a whole is no number at all.
-/

namespace BotScript.Number

open Text

/-- Blanks that may stand around a number; the information separators are not among them. -/
def isMargin (c : Char) : Bool :=
  isBlank c && !(0x1c ≤ c.toNat && c.toNat ≤ 0x1f)

/-- The text without the blanks around it. -/
def withoutMargin (chars : List Char) : List Char :=
  ((chars.dropWhile isMargin).reverse.dropWhile isMargin).reverse

/-- Digits with their values, read as far as they go: the value so far, the number of digits and the
rest. One underscore between two digits is passed over. -/
def digitRun (value count : Nat) : List Char → Nat × Nat × List Char
  | [] => (value, count, [])
  | c :: rest =>
    match decimalValue? c with
    | some d => digitRun (value * 10 + d) (count + 1) rest
    | none =>
      match rest with
      | [] => (value, count, [c])
      | next :: tail =>
        if c = '_' && count ≠ 0 then
          match decimalValue? next with
          | some d => digitRun (value * 10 + d) (count + 1) tail
          | none => (value, count, c :: next :: tail)
        else (value, count, c :: next :: tail)

/-- The sign at the start and the rest. -/
def signOf : List Char → Bool × List Char
  | '-' :: rest => (true, rest)
  | '+' :: rest => (false, rest)
  | rest => (false, rest)

/-- Why a text gives no integer. -/
inductive IntegerFlaw
  | malformed
  /-- It has more digits than are converted. -/
  | tooLong (digits : Nat)
deriving DecidableEq, Repr

/-- The largest number of digits that are converted to an integer. -/
def digitLimit : Nat := 4300

/-- The message about an integer with too many digits. -/
def tooLongMessage (digits : Nat) : String :=
  s!"Exceeds the limit ({digitLimit} digits) for integer string conversion: value has {digits} digits; " ++
    "use sys.set_int_max_str_digits() to increase the limit"

/-- The integer that the whole text is. Too many digits are noticed before what stands behind them,
unless that is an underscore. -/
def readInt (chars : List Char) : Except IntegerFlaw Int :=
  let (negative, rest) := signOf (withoutMargin chars)
  let (value, count, surplus) := digitRun 0 0 rest
  if count = 0 || surplus.head? = some '_' then .error .malformed
  else if digitLimit < count then .error (.tooLong count)
  else if surplus.isEmpty then .ok (if negative then -(value : Int) else value)
  else .error .malformed

/-- The number `significand · 10^exponent`. Exponents beyond a thousand digits either way leave no
doubt about the result, so they are not computed with. -/
def scaled (negative : Bool) (significand digitCount : Nat) (exponent : Int) : Binary64 :=
  if significand = 0 then .finite negative 0
  else if 1000 < exponent then .infinite negative
  else if exponent < -1000 - (digitCount : Int) then .finite negative 0
  else if 0 ≤ exponent then .ofFraction negative (significand * Nat.pow 10 exponent.toNat) 1
  else .ofFraction negative significand (Nat.pow 10 (-exponent).toNat)

/-- The exponent part that the rest of a number is, zero when nothing is left. -/
def exponent? : List Char → Option Int
  | [] => some 0
  | e :: rest =>
    if e = 'e' || e = 'E' then
      let (negative, rest) := signOf rest
      match digitRun 0 0 rest with
      | (_, 0, _) => none
      | (value, _, []) => some (if negative then -(value : Int) else value)
      | _ => none
    else none

/-- The digits after a point, when there is one. -/
def fractionRun (value : Nat) : List Char → Nat × Nat × List Char
  | '.' :: rest => digitRun value 0 rest
  | rest => (value, 0, rest)

/-- The magnitude of a named number. -/
def named? (chars : List Char) : Option Binary64 :=
  let word := chars.map Char.toLower
  if word = "inf".toList || word = "infinity".toList then some (.infinite false)
  else if word = "nan".toList then some .nan
  else none

/-- The double precision number nearest to the number that the whole text is. -/
def readFloat? (chars : List Char) : Option Binary64 :=
  let (negative, rest) := signOf (withoutMargin chars)
  match named? rest with
  | some magnitude => some (if negative then magnitude.neg else magnitude)
  | none =>
    let (whole, wholeCount, rest) := digitRun 0 0 rest
    let (value, fractionCount, rest) := fractionRun whole rest
    if wholeCount + fractionCount = 0 then none
    else
      (exponent? rest).map fun exponent =>
        scaled negative value (wholeCount + fractionCount) (exponent - fractionCount)

/-! ## Numbers of other systems -/

/-- The number that a text of ASCII characters without blanks and underscores is. -/
def readPlainly? (chars : List Char) : Option Binary64 :=
  if chars.all fun c => c.toNat < 0x80 && c ≠ '_' && !isMargin c then readFloat? chars else none

/-- Some two underscores stand side by side. -/
def hasUnderscorePair : List Char → Bool
  | '_' :: '_' :: _ => true
  | _ :: rest => hasUnderscorePair rest
  | [] => false

/-- A text without its underscores, which stand alone and not at its ends. -/
def withoutUnderscores? (chars : List Char) : Option (List Char) :=
  if chars.head? = some '_' || chars.getLast? = some '_' || hasUnderscorePair chars then none
  else some (chars.filter (· ≠ '_'))

/-- The number that a text is, with blanks around it or with underscores in it, but not with
both. -/
def readLoosely? (chars : List Char) : Option Binary64 :=
  (readPlainly? (withoutMargin chars)).or ((withoutUnderscores? chars).bind readPlainly?)

end BotScript.Number
