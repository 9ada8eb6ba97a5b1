import BotScript.Text.CharClass
import BotScript.Text.CodePoint

/-!
Texts as they are quoted in messages: between single quotes, or between double quotes when the text
holds single quotes only, with every character that cannot be shown written as an escape.
-/

namespace BotScript.Text

/-- A hexadecimal digit in lower case. -/
def hexDigit (n : Nat) : Char :=
  "0123456789abcdef".toList.getD (n % 16) '0'

/-- The last `width` hexadecimal digits of `n`. -/
def hexDigits : Nat → Nat → List Char
  | 0, _ => []
  | width + 1, n => hexDigits width (n / 16) ++ [hexDigit n]

/-- One character inside quotes: the quote itself and the backslash are escaped, characters that
cannot be shown are written by their code. -/
def quoteChar (quote : Char) (c : Char) : List Char :=
  if c = quote || c = '\\' then ['\\', c]
  else if c = '\n' then ['\\', 'n']
  else if c = '\r' then ['\\', 'r']
  else if c = '\t' then ['\\', 't']
  else if isPrintable c then [c]
  else
    let code := codePoint c
    if code < 0x100 then '\\' :: 'x' :: hexDigits 2 code
    else if code < 0x10000 then '\\' :: 'u' :: hexDigits 4 code
    else '\\' :: 'U' :: hexDigits 8 code

/-- The text between quotes. -/
def quoted (s : String) : String :=
  let chars := s.toList
  let quote := if chars.contains '\'' && !chars.contains '"' then '"' else '\''
  String.ofList (quote :: chars.flatMap (quoteChar quote) ++ [quote])

end BotScript.Text
