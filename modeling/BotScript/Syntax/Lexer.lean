import BotScript.Syntax.Token
import BotScript.Text.CharClass
import BotScript.Text.Indentation

/-!
Splitting a program text into tokens. The text is read piece by piece; every piece carries the proof
that its characters and the remaining ones make up the text, so the pieces of a text tile it.
-/

namespace BotScript

/-- What is wrong with a text that has no tokens. -/
inductive LexProblem
  | unexpected (c : Char)
  | openComment
  | openString
  | openBlock
  /-- No name follows a dollar sign. -/
  | bareDollar
deriving DecidableEq, Repr

def LexProblem.message : LexProblem → String
  | unexpected c => s!"Unexpected character '{c}'"
  | openComment => "Unterminated block comment"
  | openString => "Unterminated string literal"
  | openBlock => "Unterminated triple-quoted string"
  | bareDollar => "Expected a variable name after '$'"

/-- A lexical error stands where its piece of text starts. -/
structure LexError where
  problem : LexProblem
  position : Position
deriving DecidableEq, Repr

namespace Lexer

open Text (isLetter isNumeric isDigit)

/-- Words with a meaning of their own. -/
def keywords : List String :=
  ["bot", "agent", "end", "on", "when", "call", "with", "as", "say", "ask", "set", "if",
    "else", "loop", "in", "memory", "session", "user", "var", "tools", "description", "type",
    "scope", "persist", "remember", "contains", "and", "or", "not", "true", "false", "input",
    "output"]

/-- The blanks between tokens. -/
def isSpace (c : Char) : Bool :=
  c = ' ' || c = '\t' || c = '\r' || c = '\n'

def isNameStart (c : Char) : Bool :=
  isLetter c || c = '_'

def isNameChar (c : Char) : Bool :=
  isLetter c || isNumeric c || c = '_'

/-- The kind of a symbol of one character. -/
def punctuation? (c : Char) : Option TokenKind :=
  if c = '{' then some .leftBrace
  else if c = '}' then some .rightBrace
  else if c = '[' then some .leftBracket
  else if c = ']' then some .rightBracket
  else if c = '(' then some .leftParen
  else if c = ')' then some .rightParen
  else if c = ':' then some .colon
  else if c = ',' then some .comma
  else none

/-- The kind of a name that is not a variable. -/
def nameKind (chars : List Char) : TokenKind :=
  if keywords.contains (String.ofList chars) then .keyword else .name

/-- What stands at the start of a text: a token, or a blank or comment, which is none. -/
structure Piece (source : List Char) where
  token : Option (TokenKind × List Char)
  lexeme : List Char
  rest : List Char
  whole : lexeme ++ rest = source
  visible : lexeme ≠ []

theorem Piece.rest_shorter {source : List Char} (piece : Piece source) :
    piece.rest.length < source.length := by
  have length := congrArg List.length piece.whole
  have visible := List.length_pos_iff.mpr piece.visible
  simp only [List.length_append] at length
  omega

/-- The text before the first occurrence of a mark and the text behind it. -/
def splitAtMark? (mark : List Char) : List Char → Option (List Char × List Char)
  | [] => none
  | c :: rest =>
    if mark.isPrefixOf (c :: rest) then some ([], (c :: rest).drop mark.length)
    else (splitAtMark? mark rest).map fun parts => (c :: parts.1, parts.2)

theorem splitAtMark?_whole {mark source before after : List Char}
    (found : splitAtMark? mark source = some (before, after)) :
    before ++ (mark ++ after) = source := by
  induction source generalizing before with
  | nil => simp [splitAtMark?] at found
  | cons c rest ih =>
    unfold splitAtMark? at found
    split at found
    · rename_i starts
      obtain ⟨tail, eq⟩ := List.isPrefixOf_iff_prefix.mp starts
      simp only [Option.some.injEq, Prod.mk.injEq] at found
      obtain ⟨rfl, rfl⟩ := found
      rw [← eq]
      simp
    · obtain ⟨parts, inner, eq⟩ := Option.map_eq_some_iff.mp found
      simp only [Prod.mk.injEq] at eq
      obtain ⟨rfl, rfl⟩ := eq
      simpa using ih inner

/-- A text in quotes after its opening quote: its value, its characters up to the closing quote,
which is the last of them, and the rest. -/
structure Contents where
  value : List Char
  raw : List Char
  rest : List Char

/-- The value of a backslash and the character behind it. Other pairs than these keep their
backslash, because braces and backslashes are resolved when the text is split into holes. -/
def escapeValue (c : Char) : List Char :=
  if c = 'n' then ['\n']
  else if c = 't' then ['\t']
  else if c = 'r' then ['\r']
  else if c = '"' || c = '\'' then [c]
  else ['\\', c]

/-- The contents of a text in quotes, if it is closed before the line ends. -/
def contents? (quote : Char) : List Char → Option Contents
  | [] => none
  | c :: rest =>
    if c = '\n' then none
    else if c = quote then some ⟨[], [c], rest⟩
    else if c = '\\' then
      match rest with
      | [] => none
      | e :: rest =>
        (contents? quote rest).map fun inner =>
        { inner with value := escapeValue e ++ inner.value, raw := c :: e :: inner.raw }
    else (contents? quote rest).map fun inner =>
      { inner with value := c :: inner.value, raw := c :: inner.raw }

theorem contents?_whole {quote : Char} {source : List Char} {inner : Contents}
    (found : contents? quote source = some inner) : inner.raw ++ inner.rest = source := by
  fun_induction contents? quote source generalizing inner with
  | case1 => simp at found
  | case2 => simp at found
  | case3 c rest => obtain rfl := Option.some.inj found; rfl
  | case4 => simp at found
  | case5 _ e rest _ ih =>
    obtain ⟨deeper, closed, rfl⟩ := Option.map_eq_some_iff.mp found
    simpa using ih closed
  | case6 _ rest _ _ _ ih =>
    obtain ⟨deeper, closed, rfl⟩ := Option.map_eq_some_iff.mp found
    simpa using ih closed

/-- A name character comes next. -/
def nameFollows : List Char → Bool
  | [] => false
  | c :: _ => isNameChar c

/-- A name with its dots and the rest. A dot belongs to the name when a name character follows
it. -/
def splitName : List Char → List Char × List Char
  | [] => ([], [])
  | c :: rest =>
    if isNameChar c || (c = '.' && nameFollows rest) then
      (c :: (splitName rest).1, (splitName rest).2)
    else ([], c :: rest)

theorem splitName_whole (source : List Char) :
    (splitName source).1 ++ (splitName source).2 = source := by
  induction source with
  | nil => rfl
  | cons c rest ih =>
    unfold splitName
    split
    · simpa using ih
    · rfl

/-- The digits of a fraction with the point in front of them, if some follow, and the rest. -/
def splitFraction : List Char → List Char × List Char
  | '.' :: d :: rest =>
    if isDigit d then ('.' :: (d :: rest).takeWhile isDigit, (d :: rest).dropWhile isDigit)
      else ([], '.' :: d :: rest)
  | source => ([], source)

theorem splitFraction_whole (source : List Char) :
    (splitFraction source).1 ++ (splitFraction source).2 = source := by
  fun_cases splitFraction source with
  | case1 d rest digit => simp
  | case2 d rest digit => simp
  | case3 source => simp

/-- The digits of a number, with a fraction if it has one, and the rest. -/
def splitNumber (source : List Char) : List Char × List Char :=
  let fraction := splitFraction (source.dropWhile isDigit)
  (source.takeWhile isDigit ++ fraction.1, fraction.2)

theorem splitNumber_whole (source : List Char) :
    (splitNumber source).1 ++ (splitNumber source).2 = source := by
  simp [splitNumber, splitFraction_whole]

/-- A digit comes next. -/
def digitFollows : List Char → Bool
  | [] => false
  | c :: _ => isDigit c

/-- A comment up to the end of the line, which does not belong to it. -/
def lineComment (c : Char) (rest : List Char) : Piece (c :: rest) where
  token := none
  lexeme := c :: rest.takeWhile (· ≠ '\n')
  rest := rest.dropWhile (· ≠ '\n')
  whole := by rw [List.cons_append, List.takeWhile_append_dropWhile]
  visible := by simp

/-- A comment that is closed by a mark. -/
def blockComment (rest : List Char) : Except LexProblem (Piece ('/' :: '*' :: rest)) :=
  match found : splitAtMark? ['*', '/'] rest with
  | none => .error .openComment
  | some (inside, rest) =>
    .ok {
      token := none
      lexeme := '/' :: '*' :: inside ++ ['*', '/']
      rest
      whole := by simp [← splitAtMark?_whole found]
      visible := by simp }

/-- A text between triple quotes. -/
def blockText (rest : List Char) : Except LexProblem (Piece ('"' :: '"' :: '"' :: rest)) :=
  match found : splitAtMark? ['"', '"', '"'] rest with
  | none => .error .openBlock
  | some (inside, rest) =>
    .ok {
      token := some (.block, Text.cleanBlock inside)
      lexeme := '"' :: '"' :: '"' :: inside ++ ['"', '"', '"']
      rest
      whole := by simp [← splitAtMark?_whole found]
      visible := by simp }

/-- A text between quotes on one line. -/
def lineText (quote : Char) (rest : List Char) : Except LexProblem (Piece (quote :: rest)) :=
  match found : contents? quote rest with
  | none => .error .openString
  | some inner =>
    .ok {
      token := some (.string, inner.value)
      lexeme := quote :: inner.raw
      rest := inner.rest
      whole := by simp [contents?_whole found]
      visible := by simp }

/-- A name with a dollar sign in front. -/
def dollarName (c : Char) (rest : List Char) : Except LexProblem (Piece (c :: rest)) :=
  if rest.head?.any isNameStart then
    .ok {
      token := some (.dollarName, (splitName rest).1)
      lexeme := c :: (splitName rest).1
      rest := (splitName rest).2
      whole := by simp [splitName_whole]
      visible := by simp }
  else .error .bareDollar

/-- A name or a keyword; its first character is known to start a name. -/
def plainName (c : Char) (rest : List Char) : Piece (c :: rest) where
  token := some (nameKind (c :: (splitName rest).1), c :: (splitName rest).1)
  lexeme := c :: (splitName rest).1
  rest := (splitName rest).2
  whole := by simp [splitName_whole]
  visible := by simp

/-- A number; its first character is a minus sign or a digit. -/
def number (c : Char) (rest : List Char) : Piece (c :: rest) where
  token := some (.number, c :: (splitNumber rest).1)
  lexeme := c :: (splitNumber rest).1
  rest := (splitNumber rest).2
  whole := by simp [splitNumber_whole]
  visible := by simp

/-- A piece of one character. -/
def single (token : Option (TokenKind × List Char)) (c : Char) (rest : List Char) :
    Piece (c :: rest) where
  token := token
  lexeme := [c]
  rest := rest
  whole := rfl
  visible := by simp

/-- An operator of two characters. -/
def double (c d : Char) (rest : List Char) : Piece (c :: d :: rest) where
  token := some (.operator, [c, d])
  lexeme := [c, d]
  rest := rest
  whole := rfl
  visible := by simp

/-- An operator, the longest that fits. -/
def operator (c : Char) (rest : List Char) : Except LexProblem (Piece (c :: rest)) :=
  match rest with
  | d :: tail =>
    if c = '=' && d = '=' || c = '!' && d = '=' || c = '?' && d = '?' then .ok (double c d tail)
    else if c = '=' || c = '+' then .ok (single (some (.operator, [c])) c (d :: tail))
    else .error (.unexpected c)
  | [] =>
    if c = '=' || c = '+' then .ok (single (some (.operator, [c])) c []) else .error (.unexpected c)

/-- The piece at the start of a text. -/
def piece (c : Char) (rest : List Char) : Except LexProblem (Piece (c :: rest)) :=
  if isSpace c then .ok (single none c rest)
  else if c = '#' then .ok (lineComment c rest)
  else
    match c, rest with
    | '/', '*' :: inner => blockComment inner
    | '"', '"' :: '"' :: inner => blockText inner
    | c, rest =>
      if c = '"' || c = '\'' then lineText c rest
      else if c = '$' then dollarName c rest
      else if isDigit c || (c = '-' && digitFollows rest) then .ok (number c rest)
      else if isNameStart c then .ok (plainName c rest)
      else
        match punctuation? c with
        | some kind => .ok (single (some (kind, [c])) c rest)
        | none => operator c rest

/-- The tokens of a text whose first character stands at a position. -/
def scan (position : Position) (source : List Char) : Except LexError TokenStream :=
  match source with
  | [] => .ok ⟨[], position⟩
  | c :: rest =>
    match piece c rest with
    | .error problem => .error ⟨problem, position⟩
    | .ok found => do
      let stream ← scan (position.advance found.lexeme) found.rest
      match found.token with
      | none => return stream
      | some (kind, chars) =>
        return { stream with tokens := ⟨kind, String.ofList chars, position⟩ :: stream.tokens }
termination_by source.length
decreasing_by exact found.rest_shorter

end Lexer

/-- The tokens of a program text. -/
def tokenize (source : String) : Except LexError TokenStream :=
  Lexer.scan .start source.toList

end BotScript
