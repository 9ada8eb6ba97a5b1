import BotScript.Entries
import BotScript.Value.Basic

/-!
Equality of values as programs see it: values of different kinds differ, numbers are compared by
exact value, arrays item by item and objects key by key in any order.
-/

namespace BotScript.Value

/-- Two numbers of either sort are equal. -/
def sameNumber : Value → Value → Bool
  | integer n, integer m => n = m
  | integer n, number y => y.eqInt n
  | number x, integer m => x.eqInt m
  | number x, number y => x.eq y
  | _, _ => false

mutual

/-- Equality of values. -/
def same : Value → Value → Bool
  | null, null => true
  | boolean a, boolean b => a = b
  | text a, text b => a = b
  | array items, array others => sameItems items others
  | object entries, object others => entries.length = others.length && sameEntries entries others
  | integer n, other => sameNumber (integer n) other
  | number x, other => sameNumber (number x) other
  | _, _ => false

/-- Arrays of one length with equal items. -/
def sameItems : List Value → List Value → Bool
  | [], [] => true
  | item :: items, other :: others => same item other && sameItems items others
  | _, _ => false

/-- Every entry has an equal value under its key in the other object. -/
def sameEntries : List (String × Value) → List (String × Value) → Bool
  | [], _ => true
  | (key, value) :: rest, others =>
    (match Entries.get? others key with
      | some other => same value other
      | none => false) && sameEntries rest others

end

end BotScript.Value
