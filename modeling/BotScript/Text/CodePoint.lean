/-!
Code points as characters. A text that comes from a written value can hold a surrogate without the
one that makes a pair with it. A surrogate is no character, so a character of the last plane stands
for it, which is set apart for private use: the text keeps its length, and the surrogate is known
again where texts are ordered or written.
-/

namespace BotScript.Text

/-- Code points that are no characters; two of them in a row make one. -/
def isSurrogate (code : Nat) : Bool :=
  0xd800 ≤ code && code ≤ 0xdfff

/-- The distance from a surrogate to the character that stands for it. -/
def surrogateShift : Nat := 0x100000

/-- The character that is a code point or stands for it. -/
def ofCodePoint (code : Nat) : Char :=
  Char.ofNat (if isSurrogate code then code + surrogateShift else code)

/-- A character stands for a surrogate. -/
def isLone (c : Char) : Bool :=
  surrogateShift ≤ c.toNat && isSurrogate (c.toNat - surrogateShift)

/-- The code point that a character is or stands for. -/
def codePoint (c : Char) : Nat :=
  if isLone c then c.toNat - surrogateShift else c.toNat

/-- One text comes before another in the order of their code points. -/
def before (a b : String) : Bool :=
  decide (a.toList.map codePoint < b.toList.map codePoint)

/-- The surrogates that follow directly on each other from the first one with a property on, and the
number of characters in front. -/
def loneRun? (starts : Char → Bool) (chars : List Char) : Option (Nat × List Char) :=
  match chars.dropWhile fun c => !(isLone c && starts c) with
  | [] => none
  | rest => some (chars.length - rest.length, rest.takeWhile isLone)

/-- What stands for a surrogate is known again. -/
theorem codePoint_ofCodePoint {code : Nat} (surrogate : isSurrogate code) :
    codePoint (ofCodePoint code) = code := by
  have bounds : 0xd800 ≤ code ∧ code ≤ 0xdfff := by simpa [isSurrogate] using surrogate
  have valid : (code + surrogateShift).isValidChar := by
    simp only [Nat.isValidChar, surrogateShift]
    omega
  have value : (ofCodePoint code).toNat = code + surrogateShift := by
    rw [ofCodePoint, if_pos surrogate, Char.ofNat, dif_pos valid]
    rfl
  have lone : isLone (ofCodePoint code) := by
    simp [isLone, value, surrogate]
  rw [codePoint, if_pos lone, value, Nat.add_sub_cancel]

end BotScript.Text
