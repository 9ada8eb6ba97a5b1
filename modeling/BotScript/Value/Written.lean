import BotScript.Number.Decimal
import BotScript.Text.Quoted
import BotScript.Value.Basic

/-!
Values written as data: nested brackets and braces, texts in double quotes with escapes. The outputs
differ only in their separators, in whether they are spread over lines and in whether they keep to
ASCII.
-/

namespace BotScript.Value

/-- The decisions of a written form. -/
structure Style where
  /-- Between items; ignored when the form is spread over lines. -/
  itemSeparator : String
  keySeparator : String
  /-- Spaces per level when every item has a line of its own. -/
  indent : Option Nat
  /-- Characters beyond ASCII are escaped. -/
  ascii : Bool

/-- Values inside texts that programs produce take as little room as possible. -/
def Style.compact : Style := ⟨",", ":", none, false⟩

/-- Values shown in messages have a space after each separator. -/
def Style.spaced : Style := ⟨", ", ": ", none, false⟩

/-- Documents printed for people have one item a line and keep to ASCII. -/
def Style.document : Style := ⟨",", ": ", some 2, true⟩

/-- A code unit as a four-digit escape. -/
def unitEscape (unit : Nat) : List Char :=
  '\\' :: 'u' :: Text.hexDigits 4 unit

/-- A character by its code; beyond the first plane two code units are written. -/
def codeEscape (c : Char) : List Char :=
  let code := Text.codePoint c
  if code < 0x10000 then unitEscape code
  else
    let offset := code - 0x10000
    unitEscape (0xd800 + offset / 0x400) ++ unitEscape (0xdc00 + offset % 0x400)

/-- One character of a written text. -/
def writtenChar (ascii : Bool) (c : Char) : List Char :=
  if c = '"' then ['\\', '"']
  else if c = '\\' then ['\\', '\\']
  else if c = '\n' then ['\\', 'n']
  else if c = '\r' then ['\\', 'r']
  else if c = '\t' then ['\\', 't']
  else if c.toNat = 0x8 then ['\\', 'b']
  else if c.toNat = 0xc then ['\\', 'f']
  else if c.toNat < 0x20 || (ascii && 0x7e < c.toNat) then codeEscape c
  else [c]

/-- A text between double quotes. -/
def writtenText (ascii : Bool) (s : String) : String :=
  String.ofList ('"' :: s.toList.flatMap (writtenChar ascii) ++ ['"'])

/-- Items between brackets, spread over lines when the style says so. -/
def bracketed (style : Style) (level : Nat) (opening closing : String) (items : List String) :
    String :=
  if items.isEmpty then opening ++ closing
  else
    match style.indent with
    | none => opening ++ style.itemSeparator.intercalate items ++ closing
    | some width =>
      let newline (level : Nat) := "\n" ++ String.ofList (List.replicate (width * level) ' ')
      opening ++ newline (level + 1) ++
        (style.itemSeparator ++ newline (level + 1)).intercalate items ++
        newline level ++ closing

mutual

/-- A value written at a nesting level. -/
def writtenAt (style : Style) (level : Nat) : Value → String
  | null => "null"
  | boolean b => if b then "true" else "false"
  | integer n => toString n
  | number x => x.dataText
  | text s => writtenText style.ascii s
  | array items => bracketed style level "[" "]" (writtenItems style (level + 1) items)
  | object entries => bracketed style level "\x7b" "\x7d" (writtenEntries style (level + 1) entries)

def writtenItems (style : Style) (level : Nat) : List Value → List String
  | [] => []
  | item :: rest => writtenAt style level item :: writtenItems style level rest

def writtenEntries (style : Style) (level : Nat) : List (String × Value) → List String
  | [] => []
  | (key, value) :: rest =>
    (writtenText style.ascii key ++ style.keySeparator ++ writtenAt style level value) ::
      writtenEntries style level rest

end

/-- A value written in a style. -/
def written (style : Style) (value : Value) : String :=
  writtenAt style 0 value

end BotScript.Value
