import BotScript.Value.Written

/-!
Values as people see them: the text that a program says, and the short form that messages quote.
-/

namespace BotScript.Value

/-- The text of a value in output, templates and concatenations. A whole number has no point, and
nothing is said for null. -/
def shown : Value → String
  | null => ""
  | boolean b => if b then "true" else "false"
  | integer n => toString n
  | number x =>
    match x.toInt? with
    | some n => toString n
    | none => x.text
  | text s => s
  | array items => written .compact (array items)
  | object entries => written .compact (object entries)

/-- The first `count` characters; a negative count leaves out that many at the end. -/
def leading (count : Int) (chars : List Char) : List Char :=
  if 0 ≤ count then chars.take count.toNat else chars.take (chars.length - (-count).toNat)

/-- A text cut to `limit` characters, with dots in place of what is missing. -/
def shortened (limit : Int) (s : String) : String :=
  if (s.length : Int) ≤ limit then s else String.ofList (leading (limit - 3) s.toList) ++ "..."

/-- The written form that messages quote: texts keep to ASCII, other values do not. -/
def quotedForm : Value → String
  | text s => writtenText true s
  | value => written .spaced value

/-- A value as messages quote it, in at most `limit` characters. -/
def describe (value : Value) (limit : Int) : String :=
  shortened limit value.quotedForm

/-- The limit that messages use. -/
def describeLimit : Int := 60

end BotScript.Value
