import BotScript.Text.LetterRanges
import BotScript.Text.NumericRanges
import BotScript.Text.PrintableRanges

/-!
Character classes of the language. ASCII is decided by comparison and the rest by tables, so that
facts about the punctuation of the language never look into a table.
-/

namespace BotScript.Text

/-- Some range holds the code point. -/
def within (ranges : Array (Nat × Nat)) (code : Nat) : Bool :=
  ranges.any fun range => range.1 ≤ code && code ≤ range.2

/-- Letters of any script. -/
def isLetter (c : Char) : Bool :=
  if c.toNat < 0x80 then c.isAlpha else within letterRanges c.toNat

/-- Digits, superscript and circled ones included; not all of them have a decimal value. -/
def isDigit (c : Char) : Bool :=
  if c.toNat < 0x80 then c.isDigit else within digitRanges c.toNat

/-- Characters with a numeric value, such as digits, fractions and numeral letters. -/
def isNumeric (c : Char) : Bool :=
  if c.toNat < 0x80 then c.isDigit else within numericRanges c.toNat

/-- The value of a decimal digit of any script. -/
def decimalValue? (c : Char) : Option Nat :=
  if c.toNat < 0x80 then
    if c.isDigit then some (c.toNat - '0'.toNat) else none
  else
    (decimalRanges.find? fun range => range.1 ≤ c.toNat && c.toNat ≤ range.2).map fun range =>
      (c.toNat - range.1) % 10

/-- Blanks: space, tab, line ends, information separators and the space separators of Unicode. -/
def isBlank (c : Char) : Bool :=
  let code := c.toNat
  (0x9 ≤ code && code ≤ 0xd) || (0x1c ≤ code && code ≤ 0x20) || code = 0x85 || code = 0xa0 ||
    code = 0x1680 || (0x2000 ≤ code && code ≤ 0x200a) || code = 0x2028 || code = 0x2029 ||
    code = 0x202f || code = 0x205f || code = 0x3000

/-- Characters that are shown as themselves when a text is quoted. -/
def isPrintable (c : Char) : Bool :=
  if c.toNat < 0x80 then 0x20 ≤ c.toNat && c.toNat ≤ 0x7e else within printableRanges c.toNat

/-- `chars` without the blanks at its start. -/
def trimLeft (chars : List Char) : List Char :=
  chars.dropWhile isBlank

/-- `chars` without the blanks at both ends. -/
def trim (chars : List Char) : List Char :=
  (trimLeft (trimLeft chars).reverse).reverse

/-- `s` without the blanks at both ends. -/
def strip (s : String) : String :=
  String.ofList (trim s.toList)

theorem trimLeft_suffix (chars : List Char) : trimLeft chars <:+ chars :=
  List.dropWhile_suffix isBlank

/-- Trimming keeps a middle part of the text. -/
theorem trim_infix (chars : List Char) : trim chars <:+: chars := by
  have inner : (trimLeft (trimLeft chars).reverse).reverse <+: trimLeft chars := by
    simpa using List.reverse_prefix.mpr (trimLeft_suffix (trimLeft chars).reverse)
  exact inner.isInfix.trans (trimLeft_suffix chars).isInfix

end BotScript.Text
