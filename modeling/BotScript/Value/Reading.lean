import BotScript.Entries
import BotScript.Number.Reading
import BotScript.Syntax.Position
import BotScript.Text.CodePoint
import BotScript.Text.Percent
import BotScript.Value.Basic

/-!
Values read from their written form. What is not written as a value is refused with the place of the
first character that cannot be part of one.
-/

namespace BotScript

/-- What is wrong with a written value. -/
inductive ReadProblem
  | value
  | key
  | colon
  | comma
  /-- Something stands behind the value. -/
  | surplus
  | openText
  | controlCharacter
  | escape
  | unicodeEscape
  | byteOrderMark
  /-- An integer has more digits than are converted. -/
  | tooLong (digits : Nat)
deriving DecidableEq, Repr

def ReadProblem.message : ReadProblem → String
  | value => "Expecting value"
  | key => "Expecting property name enclosed in double quotes"
  | colon => "Expecting ':' delimiter"
  | comma => "Expecting ',' delimiter"
  | surplus => "Extra data"
  | openText => "Unterminated string starting at"
  | controlCharacter => "Invalid control character at"
  | escape => "Invalid \\escape"
  | unicodeEscape => "Invalid \\uXXXX escape"
  | byteOrderMark => "Unexpected UTF-8 BOM (decode using utf-8-sig)"
  | tooLong digits => Number.tooLongMessage digits

/-- A problem, and how many characters there are from the one it is blamed on to the end. -/
structure ReadError where
  problem : ReadProblem
  remaining : Nat
deriving DecidableEq, Repr

/-- What is reported of an error in a text: the problem with its line, its column and the characters
before it. -/
def ReadError.describe (error : ReadError) (source : String) : String :=
  let offset := source.length - error.remaining
  let p := Position.start.advance (source.toList.take offset)
  s!"{error.problem.message}: line {p.line} column {p.column} (char {offset})"

namespace Value.Reading

open Text (hexValue?)

/-- Something read from the front of a text, and the rest. -/
structure Front (α : Type) (chars : List Char) where
  result : α
  rest : List Char
  shorter : rest.length < chars.length

/-- Blanks between the parts of a written value. -/
def isBlank (c : Char) : Bool :=
  c = ' ' || c = '\t' || c = '\n' || c = '\r'

/-- The text without the blanks in front. -/
def skipBlanks (chars : List Char) : List Char :=
  chars.dropWhile isBlank

theorem skipBlanks_length (chars : List Char) : (skipBlanks chars).length ≤ chars.length :=
  (List.dropWhile_suffix isBlank).length_le

/-! ## Texts -/

/-- The number that four hexadecimal digits in front give. -/
def codeUnit? : List Char → Option Nat
  | a :: b :: c :: d :: _ => do
    return ((← hexValue? a) * 16 + (← hexValue? b)) * 256 + (← hexValue? c) * 16 + (← hexValue? d)
  | _ => none

/-- The second half of a character that needs two code units: an escape in front of a text that does
not end with it. -/
def lowHalf? : List Char → Except Unit (Option Nat)
  | '\\' :: 'u' :: digits =>
    if (digits.drop 4).isEmpty then .ok none
    else
      match codeUnit? digits with
      | none => .error ()
      | some unit => .ok (if 0xdc00 ≤ unit && unit ≤ 0xdfff then some unit else none)
  | _ => .ok none

/-- The character of an escape by code and the text behind it, given the text from its digits on. A
text has to go on behind an escape. -/
def coded (digits : List Char) : Except ReadError (Char × List Char) :=
  if (digits.drop 4).isEmpty then .error ⟨.unicodeEscape, digits.length + 1⟩
  else
    match codeUnit? digits with
    | none => .error ⟨.unicodeEscape, digits.length + 1⟩
    | some unit =>
      let rest := digits.drop 4
      if 0xd800 ≤ unit && unit ≤ 0xdbff then
        match lowHalf? rest with
        | .error () => .error ⟨.unicodeEscape, rest.length - 1⟩
        | .ok (some low) =>
          .ok (Char.ofNat (0x10000 + (unit - 0xd800) * 0x400 + (low - 0xdc00)), rest.drop 6)
        | .ok none => .ok (Text.ofCodePoint unit, rest)
      else .ok (Text.ofCodePoint unit, rest)

/-- The character that a letter behind a backslash stands for. -/
def escaped? (c : Char) : Option Char :=
  match c with
  | '"' | '\\' | '/' => some c
  | 'b' => some '\x08'
  | 'f' => some '\x0c'
  | 'n' => some '\n'
  | 'r' => some '\r'
  | 't' => some '\t'
  | _ => none

theorem coded_length {digits : List Char} {c : Char} {rest : List Char}
    (read : coded digits = .ok (c, rest)) :
    rest.length < digits.length := by
  unfold coded at read
  by_cases short : (digits.drop 4).isEmpty
  · rw [if_pos short] at read
    simp at read
  · rw [if_neg short] at read
    simp only [List.isEmpty_iff, List.drop_eq_nil_iff] at short
    have dropped (n : Nat) (same : (digits.drop 4).drop n = rest) :
        rest.length < digits.length := by
      rw [← same]
      simp only [List.length_drop]
      omega
    split at read
    · simp at read
    · simp only at read
      split at read
      · split at read
        · simp at read
        · simp only [Except.ok.injEq, Prod.mk.injEq] at read
          exact dropped 6 read.2
        · simp only [Except.ok.injEq, Prod.mk.injEq] at read
          exact dropped 0 read.2
      · simp only [Except.ok.injEq, Prod.mk.injEq] at read
        exact dropped 0 read.2

/-- The characters of a text up to its closing quote; `opening` is everything behind the opening
quote. -/
def characters (opening : List Char) (chars : List Char) :
    Except ReadError (Front (List Char) chars) :=
  match chars with
  | [] => .error ⟨.openText, opening.length + 1⟩
  | '"' :: rest => .ok ⟨[], rest, by simp⟩
  | '\\' :: [] => .error ⟨.openText, opening.length + 1⟩
  | '\\' :: 'u' :: digits =>
    match read : coded digits with
    | .error error => .error error
    | .ok (c, rest) => do
      have := coded_length read
      let more ← characters opening rest
      return ⟨c :: more.result, more.rest, by
        have := more.shorter; simp only [List.length_cons]; omega⟩
  | '\\' :: c :: rest =>
    match escaped? c with
    | none => .error ⟨.escape, rest.length + 2⟩
    | some c => do
      let more ← characters opening rest
      return ⟨c :: more.result, more.rest, by
        have := more.shorter; simp only [List.length_cons]; omega⟩
  | c :: rest =>
    if c.toNat < 0x20 then .error ⟨.controlCharacter, rest.length + 1⟩
    else do
      let more ← characters opening rest
      return ⟨c :: more.result, more.rest, by
        have := more.shorter; simp only [List.length_cons]; omega⟩
termination_by chars.length

/-! ## Numbers -/

/-- The digits in front of a text, and the rest. -/
def digits (chars : List Char) : List Char × List Char :=
  chars.span Char.isDigit

/-- The fraction in front of a text, empty unless a digit follows the point. -/
def fraction : List Char → List Char × List Char
  | '.' :: rest =>
    match digits rest with
    | ([], _) => ([], '.' :: rest)
    | (found, rest) => ('.' :: found, rest)
  | rest => ([], rest)

/-- The exponent in front of a text, empty unless it has a digit. -/
def exponent (chars : List Char) : List Char × List Char :=
  match chars with
  | [] => ([], [])
  | e :: rest =>
    if e = 'e' || e = 'E' then
      let (sign, tail) :=
        match rest with
        | '+' :: tail => (['+'], tail)
        | '-' :: tail => (['-'], tail)
        | tail => ([], tail)
      match digits tail with
      | ([], _) => ([], chars)
      | (found, rest) => (e :: sign ++ found, rest)
    else ([], chars)

/-- The whole part in front of a text: a zero alone, or digits that do not start with one. -/
def whole : List Char → List Char × List Char
  | '0' :: rest => (['0'], rest)
  | rest => digits rest

/-- The number in front of a text, and of how many characters it is made. -/
def number (chars : List Char) : Except ReadProblem (Value × Nat) :=
  let (sign, rest) :=
    match chars with
    | '-' :: rest => (['-'], rest)
    | rest => ([], rest)
  match whole rest with
  | ([], _) => .error .value
  | (whole, rest) =>
    let (fraction, rest) := fraction rest
    let (exponent, _) := exponent rest
    let numeral := sign ++ whole ++ fraction ++ exponent
    if fraction.isEmpty && exponent.isEmpty then
      match Number.readInt numeral with
      | .ok n => .ok (.integer n, numeral.length)
      | .error (.tooLong digits) => .error (.tooLong digits)
      | .error .malformed => .error .value
    else
      match Number.readFloat? numeral with
      | some x => .ok (.number x, numeral.length)
      | none => .error .value

/-! ## Values -/

/-- The words that are values. -/
def words : List (String × Value) := [
  ("null", .null),
  ("true", .boolean true),
  ("false", .boolean false),
  ("NaN", .number .nan),
  ("Infinity", .number (.infinite false)),
  ("-Infinity", .number (.infinite true))]

/-- What the word in front of a text stands for, and of how many characters it is made. -/
def word? (chars : List Char) : Option (Value × Nat) :=
  words.findSome? fun (word, value) =>
    if word.toList.isPrefixOf chars then some (value, word.length) else none

/-- The value without parts in front of a text, and of how many characters it is made. -/
def plainValue (chars : List Char) : Except ReadProblem (Value × Nat) :=
  match word? chars with
  | some found => .ok found
  | none => number chars

/-- The value without parts in front of a text; nothing is no value. -/
def plain (chars : List Char) : Except ReadError (Front Value chars) :=
  match plainValue chars, chars with
  | .ok (value, count + 1), _ :: rest =>
    .ok ⟨value, rest.drop count, by simp only [List.length_drop, List.length_cons]; omega⟩
  | .error problem, _ => .error ⟨problem, chars.length⟩
  | _, _ => .error ⟨.value, chars.length⟩

mutual

/-- The value in front of a text. -/
def value (chars : List Char) : Except ReadError (Front Value chars) :=
  match chars with
  | '"' :: rest => do
    let inner ← characters rest rest
    return ⟨.text (String.ofList inner.result), inner.rest, by
      have := inner.shorter; simp only [List.length_cons]; omega⟩
  | '[' :: rest =>
    have bound := skipBlanks_length rest
    match skipped : skipBlanks rest with
    | ']' :: rest =>
      .ok ⟨.array [], rest, by simp only [skipped, List.length_cons] at bound ⊢; omega⟩
    | start => do
      have : start.length ≤ rest.length := skipped ▸ bound
      let inner ← items start
      return ⟨.array inner.result, inner.rest, by
        have := inner.shorter; simp only [List.length_cons]; omega⟩
  | '\x7b' :: rest =>
    have bound := skipBlanks_length rest
    match skipped : skipBlanks rest with
    | '\x7d' :: rest =>
      .ok ⟨.object [], rest, by simp only [skipped, List.length_cons] at bound ⊢; omega⟩
    | start => do
      have : start.length ≤ rest.length := skipped ▸ bound
      let inner ← entries start
      return ⟨.object (Entries.ofList inner.result), inner.rest, by
        have := inner.shorter; simp only [List.length_cons]; omega⟩
  | other => plain other
termination_by (chars.length, 0)

/-- The items of an array from one of them on. -/
def items (chars : List Char) : Except ReadError (Front (List Value) chars) := do
  let first ← value chars
  have := first.shorter
  have bound := skipBlanks_length first.rest
  match skipped : skipBlanks first.rest with
  | ']' :: rest =>
    return ⟨[first.result], rest, by simp only [skipped, List.length_cons] at bound; omega⟩
  | ',' :: rest =>
    have := skipBlanks_length rest
    have : rest.length < first.rest.length := by
      simp only [skipped, List.length_cons] at bound; omega
    let more ← items (skipBlanks rest)
    return ⟨first.result :: more.result, more.rest, by have := more.shorter; omega⟩
  | other => .error ⟨.comma, other.length⟩
termination_by (chars.length, 1)

/-- The entries of an object from one of them on. -/
def entries (chars : List Char) : Except ReadError (Front (List (String × Value)) chars) :=
  match chars with
  | '"' :: rest => do
    let key ← characters rest rest
    have := key.shorter
    have bound := skipBlanks_length key.rest
    match skipped : skipBlanks key.rest with
    | ':' :: afterColon =>
      have := skipBlanks_length afterColon
      have : afterColon.length < key.rest.length := by
        simp only [skipped, List.length_cons] at bound; omega
      let content ← value (skipBlanks afterColon)
      have := content.shorter
      have bound := skipBlanks_length content.rest
      match skipped : skipBlanks content.rest with
      | '\x7d' :: rest =>
        return ⟨[(String.ofList key.result, content.result)], rest, by
          simp only [skipped, List.length_cons] at bound ⊢; omega⟩
      | ',' :: afterComma =>
        have := skipBlanks_length afterComma
        have : afterComma.length < content.rest.length := by
          simp only [skipped, List.length_cons] at bound; omega
        let more ← entries (skipBlanks afterComma)
        return ⟨(String.ofList key.result, content.result) :: more.result, more.rest, by
          have := more.shorter; simp only [List.length_cons]; omega⟩
      | other => .error ⟨.comma, other.length⟩
    | other => .error ⟨.colon, other.length⟩
  | other => .error ⟨.key, other.length⟩
termination_by (chars.length, 1)

end

end Value.Reading

/-- The value that a text is the written form of, with blanks around it. -/
def Value.read (source : String) : Except ReadError Value :=
  if source.startsWith "\ufeff" then .error ⟨.byteOrderMark, source.length⟩
  else
    match Reading.value (Reading.skipBlanks source.toList) with
    | .error error => .error error
    | .ok front =>
      match Reading.skipBlanks front.rest with
      | [] => .ok front.result
      | surplus => .error ⟨.surplus, surplus.length⟩

end BotScript
