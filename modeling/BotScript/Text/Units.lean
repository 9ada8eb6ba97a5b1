import BotScript.Text.CodePoint
import BotScript.Text.Utf8

/-!
Texts whose bytes come in units of one, two or four. Which it is shows in the first bytes, because
the texts that are read this way start with characters of one byte: the other bytes of their units
are zero.
-/

namespace BotScript.Text

/-- How bytes form units. Units of several bytes start with the most significant one or with the
least. -/
inductive Units
  | bytes
  | pairs (significantFirst : Bool)
  | fours (significantFirst : Bool)
deriving DecidableEq, Repr

namespace Units

/-- How the bytes of a text form units. -/
def ofBytes : List UInt8 → Units
  | [0, _] => pairs true
  | [_, 0] => pairs false
  | 0 :: 0 :: _ :: _ :: _ => fours true
  | 0 :: _ :: _ :: _ :: _ => pairs true
  | _ :: 0 :: 0 :: 0 :: _ => fours false
  | _ :: 0 :: _ :: _ :: _ => pairs false
  | _ => bytes

/-- The number that bytes stand for. -/
def number (significantFirst : Bool) (bytes : List UInt8) : Nat :=
  (if significantFirst then bytes else bytes.reverse).foldl (fun n byte => n * 256 + byte.toNat) 0

/-- The numbers of bytes in twos; a byte must not be left over. -/
def readPairs? (significantFirst : Bool) : List UInt8 → Option (List Nat)
  | [] => some []
  | a :: b :: rest => (readPairs? significantFirst rest).map (number significantFirst [a, b] :: ·)
  | _ => none

/-- The numbers of bytes in fours; no byte must be left over. -/
def readFours? (significantFirst : Bool) : List UInt8 → Option (List Nat)
  | [] => some []
  | a :: b :: c :: d :: rest =>
    (readFours? significantFirst rest).map (number significantFirst [a, b, c, d] :: ·)
  | _ => none

/-- The code points that numbers below 65536 stand for: two surrogates that belong together are
one. -/
def joined : List Nat → List Nat
  | [] => []
  | [code] => [code]
  | high :: low :: rest =>
    if 0xd800 ≤ high && high < 0xdc00 && 0xdc00 ≤ low && low < 0xe000 then
      (0x10000 + (high - 0xd800) * 1024 + (low - 0xdc00)) :: joined rest
    else high :: joined (low :: rest)

/-- The text that bytes are, if they are one. -/
def decode? (bytes : List UInt8) : Option (List Char) :=
  match ofBytes bytes with
  | .bytes => some (Utf8.decode bytes)
  | .pairs significantFirst => (readPairs? significantFirst bytes).map fun codes =>
    (joined codes).map ofCodePoint
  | .fours significantFirst => do
    let codes ← readFours? significantFirst bytes
    if codes.all (· ≤ 0x10ffff) then some (codes.map ofCodePoint) else none

end Units

end BotScript.Text
