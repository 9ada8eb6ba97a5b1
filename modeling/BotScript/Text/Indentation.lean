import BotScript.Text.CharClass

/-!
Indented blocks of text. A block written inside a program is cleaned before use: tabs become spaces,
the common margin of the lines after the first is cut off, and empty lines at both ends are dropped.
-/

namespace BotScript.Text

/-- Tabs replaced by spaces up to the next multiple of eight columns; `column` is the column of the
first character and every line end starts again at column zero. -/
def expandTabs (column : Nat) : List Char → List Char
  | [] => []
  | c :: rest =>
    if c = '\t' then List.replicate (8 - column % 8) ' ' ++ expandTabs
      (column + (8 - column % 8)) rest
    else if c = '\n' || c = '\r' then c :: expandTabs 0 rest
    else c :: expandTabs (column + 1) rest

/-- The lines of a text; a text without a newline is one line. -/
def splitLines : List Char → List (List Char)
  | [] => [[]]
  | c :: rest =>
    match splitLines rest with
    | [] => [[c]]
    | line :: lines => if c = '\n' then [] :: line :: lines else (c :: line) :: lines

/-- The text with the given lines. -/
def joinLines (lines : List (List Char)) : List Char :=
  ['\n'].intercalate lines

/-- The number of blanks before the first other character, for a line that has one. -/
def indent? (line : List Char) : Option Nat :=
  if (trimLeft line).isEmpty then none else some (line.takeWhile isBlank).length

/-- The smallest indentation among the lines that are not blank. -/
def margin (lines : List (List Char)) : Nat :=
  ((lines.filterMap indent?).min?).getD 0

/-- The lines with their margin cut off and the empty lines at both ends dropped. The first line
stands beside the opening quotes, so it is trimmed on its own and has no say in the margin. -/
def cleanLines (lines : List (List Char)) : List (List Char) :=
  let body :=
    match lines with
    | [] => []
    | first :: others => trimLeft first :: others.map (List.drop (margin others))
  ((body.dropWhile List.isEmpty).reverse.dropWhile List.isEmpty).reverse

/-- A block of text as it is meant once its indentation in the program is taken away. -/
def cleanBlock (block : List Char) : List Char :=
  joinLines (cleanLines (splitLines (expandTabs 0 block)))

end BotScript.Text
