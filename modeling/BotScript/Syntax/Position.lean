/-!
Positions in a program text: lines and columns count from one, and a column counts characters.
-/

namespace BotScript

/-- A place in a program text. -/
structure Position where
  line : Nat
  column : Nat
deriving DecidableEq, Repr, Inhabited

namespace Position

/-- Where a text begins. -/
def start : Position := ⟨1, 1⟩

/-- The position behind one character. -/
def step (p : Position) (c : Char) : Position :=
  if c = '\n' then ⟨p.line + 1, 1⟩ else ⟨p.line, p.column + 1⟩

/-- The position behind a piece of text. -/
def advance (p : Position) (chars : List Char) : Position :=
  chars.foldl step p

@[simp] theorem advance_nil (p : Position) : p.advance [] = p := rfl

@[simp] theorem advance_append (p : Position) (front back : List Char) :
    p.advance (front ++ back) = (p.advance front).advance back := by
  simp [advance]

end Position

/-- The place that an error names. Errors raised by a host may name a line alone, or nothing. -/
structure Place where
  line : Option Int
  column : Option Int
deriving DecidableEq, Repr, Inhabited

namespace Place

def unknown : Place := ⟨none, none⟩

def of (p : Position) : Place := ⟨some p.line, some p.column⟩

/-- A place without a line is replaced; the place of the innermost cause stays. -/
def orElse (place : Place) (p : Position) : Place :=
  if place.line.isNone then Place.of p else place

/-- The place in parentheses behind a message. -/
def suffix (place : Place) : String :=
  match place.line with
  | none => ""
  | some line =>
    match place.column with
    | none => s!" (line {line})"
    | some column => s!" (line {line}, column {column})"

end Place

end BotScript
