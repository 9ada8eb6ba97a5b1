import BotScript.Text.Utf8

/-!
Percent escapes in paths: a percent sign and two hexadecimal digits stand for a byte of the UTF-8
form of a text.
-/

namespace BotScript.Text

/-- The value of a hexadecimal digit. -/
def hexValue? (c : Char) : Option Nat :=
  let code := c.toNat
  if '0'.toNat ≤ code && code ≤ '9'.toNat then some (code - '0'.toNat)
  else if 'a'.toNat ≤ code && code ≤ 'f'.toNat then some (code - 'a'.toNat + 10)
  else if 'A'.toNat ≤ code && code ≤ 'F'.toNat then some (code - 'A'.toNat + 10)
  else none

/-- The bytes that a text with escapes stands for; what is no escape stands for itself. -/
def percentBytes : List Char → List UInt8
  | '%' :: high :: low :: rest =>
    match hexValue? high, hexValue? low with
    | some h, some l => (h * 16 + l).toUInt8 :: percentBytes rest
    | _, _ => '%'.toNat.toUInt8 :: percentBytes (high :: low :: rest)
  | c :: rest => c.toString.toUTF8.toList ++ percentBytes rest
  | [] => []

/-- The text that a text with escapes stands for. -/
def percentDecoded (s : String) : String :=
  String.ofList (Utf8.decode (percentBytes s.toList))

end BotScript.Text
