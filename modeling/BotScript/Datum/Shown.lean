import BotScript.Datum.Basic
import BotScript.Text.Quoted

/-!
The host's own text of any data. It becomes part of metadata, where a host may give anything for a
name.
-/

namespace BotScript.Datum

/-- A fraction; whole ones have no denominator. -/
def fractionText (q : Rat) : String :=
  if q.den = 1 then toString q.num else s!"{q.num}/{q.den}"

/-- A key inside a mapping's text. -/
def Key.inner (key : Key) : String :=
  match key with
  | .text s => Text.quoted s
  | other => other.shown

mutual

/-- Host data inside the text of other data, where texts are quoted. -/
def inner : Datum → String
  | null => "None"
  | boolean b => if b then "True" else "False"
  | integer n => toString n
  | number x => x.text
  | text s => Text.quoted s
  | list items => "[" ++ ", ".intercalate (innerItems items) ++ "]"
  | mapping entries => "\x7b" ++ ", ".intercalate (innerEntries entries) ++ "\x7d"
  | tuple [item] => "(" ++ inner item ++ ",)"
  | tuple items => "(" ++ ", ".intercalate (innerItems items) ++ ")"
  | decimal x => "Decimal('" ++ x.text ++ "')"
  | fraction q => s!"Fraction({q.num}, {q.den})"
  | result success output data =>
    "ToolResult(success=" ++ inner success ++ ", output=" ++ inner output ++ ", data=" ++
      inner data ++ ")"
  | foreign description => description

def innerItems : List Datum → List String
  | [] => []
  | item :: rest => inner item :: innerItems rest

def innerEntries : List (Key × Datum) → List String
  | [] => []
  | (key, datum) :: rest => (key.inner ++ ": " ++ inner datum) :: innerEntries rest

end

/-- The host's text of data. -/
def shown : Datum → String
  | text s => s
  | decimal x => x.text
  | fraction q => fractionText q
  | other => inner other

end BotScript.Datum
