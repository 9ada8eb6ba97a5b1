import BotScript.Text.CodePoint
import BotScript.Text.Quoted

/-!
Texts as bytes. Bytes that are no text are read all the same: each longest start of a character that
does not go on as it should becomes one mark, and so does each byte that starts nothing.
-/

namespace BotScript.Text.Utf8

/-- What stands for bytes that are no character. -/
def mark : Char := '\ufffd'

/-- The first byte of a character of several bytes: its part of the code, the number of bytes that
follow, and between what bounds the next one lies. -/
structure Lead where
  code : Nat
  following : Nat
  low : Nat
  high : Nat
deriving DecidableEq, Repr

/-- What a byte says as the first one of several. The bounds leave out codes that have a shorter
form, surrogates and what is no code point. -/
def lead? (byte : Nat) : Option Lead :=
  if byte < 0xc2 then none
  else if byte < 0xe0 then some ⟨byte - 0xc0, 1, 0x80, 0xbf⟩
  else if byte < 0xf0 then
    some ⟨byte - 0xe0, 2, if byte = 0xe0 then 0xa0 else 0x80, if byte = 0xed then 0x9f else 0xbf⟩
  else if byte < 0xf5 then
    some ⟨byte - 0xf0, 3, if byte = 0xf0 then 0x90 else 0x80, if byte = 0xf4 then 0x8f else 0xbf⟩
  else none

/-- The character that starts with a code and goes on with some bytes, as far as they belong to it,
and the bytes behind it. -/
def continued (code : Nat) (following low high : Nat) (bytes : List UInt8) : Char × List UInt8 :=
  match following, bytes with
  | 0, rest => (Char.ofNat code, rest)
  | following + 1, byte :: rest =>
    if low ≤ byte.toNat && byte.toNat ≤ high then
      continued (code * 64 + (byte.toNat - 0x80)) following 0x80 0xbf rest
    else (mark, byte :: rest)
  | _ + 1, [] => (mark, [])

theorem continued_length (code following low high : Nat) (bytes : List UInt8) :
    (continued code following low high bytes).2.length ≤ bytes.length := by
  induction following generalizing code low high bytes with
  | zero => simp [continued]
  | succ following ih =>
    cases bytes with
    | nil => simp [continued]
    | cons byte rest =>
      rw [continued]
      split
      · exact Nat.le_succ_of_le (ih ..)
      · exact Nat.le_refl _

/-- The text that bytes are, with marks where they are none. -/
def decode : List UInt8 → List Char
  | [] => []
  | byte :: rest =>
    if byte.toNat < 0x80 then Char.ofNat byte.toNat :: decode rest
    else
      match lead? byte.toNat with
      | none => mark :: decode rest
      | some lead =>
        have := continued_length lead.code lead.following lead.low lead.high rest
        let read := continued lead.code lead.following lead.low lead.high rest
        read.1 :: decode read.2
termination_by bytes => bytes.length
decreasing_by all_goals simp only [List.length_cons]; omega

/-- Why a text has no bytes, if it has none: it holds surrogates of a barred sort. -/
def refusalOf? (isBarred : Char → Bool) (chars : List Char) : Option String :=
  (loneRun? isBarred chars).map fun (place, run) =>
    match run with
    | [c] =>
      let escape := String.ofList ('\\' :: 'u' :: hexDigits 4 (codePoint c))
      s!"'utf-8' codec can't encode character '{escape}' in position {place}: surrogates not allowed"
    | _ =>
      s!"'utf-8' codec can't encode characters in position {place}-{place + run.length - 1}: surrogates not allowed"

/-- Why a text has no bytes, if it has none: it holds surrogates. -/
def refusal? : List Char → Option String :=
  refusalOf? fun _ => true

end BotScript.Text.Utf8
