import BotScript.Syntax.Expr.Reader

/-!
Texts with holes. A text is cut at its braces into literal parts and holes; a hole is a program text
of its own, which is split into tokens and read as one expression. A hole has fewer opening braces
than the text that it is cut from, so the nesting of holes is bounded by the number of opening
braces.
-/

namespace BotScript

namespace Template

/-- A part of a text: literal characters, or the inside of a hole without the blanks around it. -/
inductive Part
  | text (chars : List Char)
  | hole (chars : List Char)
deriving DecidableEq, Repr

/-- The parts of a text up to the first thing that is wrong with its braces. -/
structure Parts where
  parts : List Part
  problem : Option Problem
deriving DecidableEq, Repr

/-- One more literal character in front. -/
def Parts.push (c : Char) (all : Parts) : Parts :=
  match all.parts with
  | .text chars :: rest => { all with parts := .text (c :: chars) :: rest }
  | parts => { all with parts := .text [c] :: parts }

/-- The inside of a hole up to its closing brace, and what is behind it. `depth` counts the braces
that are open besides the hole's own; braces inside quotes do not count, and a backslash inside
quotes hides the character behind it. -/
def holeEnd? (depth : Nat) (quote : Option Char) : List Char → Option (List Char × List Char)
  | [] => none
  | c :: rest =>
    match quote with
    | some q =>
      if c = '\\' then
        match rest with
        | [] => none
        | d :: rest => (holeEnd? depth quote rest).map fun parts => (c :: d :: parts.1, parts.2)
      else (holeEnd? depth (if c = q then none else quote) rest).map fun parts =>
        (c :: parts.1, parts.2)
    | none =>
      if c = '"' || c = '\'' then (holeEnd? depth (some c) rest).map fun parts =>
        (c :: parts.1, parts.2)
      else if c = '{' then (holeEnd? (depth + 1) none rest).map fun parts => (c :: parts.1, parts.2)
      else if c = '}' then
        match depth with
        | 0 => some ([], rest)
        | depth + 1 => (holeEnd? depth none rest).map fun parts => (c :: parts.1, parts.2)
      else (holeEnd? depth none rest).map fun parts => (c :: parts.1, parts.2)

/-- The inside of a hole, its closing brace and what is behind it make up the text. -/
theorem holeEnd?_whole {depth : Nat} {quote : Option Char} {source inside behind : List Char}
    (found : holeEnd? depth quote source = some (inside, behind)) :
    inside ++ '}' :: behind = source := by
  fun_induction holeEnd? depth quote source generalizing inside behind <;>
    simp_all only [reduceCtorEq, Option.map_eq_some_iff, Prod.mk.injEq, Option.some.injEq]
  case case7 => obtain ⟨rfl, rfl⟩ := found; rfl
  all_goals
    rename_i ih
    obtain ⟨parts, inner, rfl, rfl⟩ := found
    simpa using ih inner

/-- A backslash hides these characters from the search for holes. -/
def isHidden (c : Char) : Bool :=
  c = '{' || c = '}' || c = '\\'

/-- A text cut at its holes. -/
def cut : List Char → Parts
  | [] => ⟨[], none⟩
  | c :: rest =>
    if c = '\\' then
      match rest with
      | [] => ⟨[.text [c]], none⟩
      | d :: behind => if isHidden d then (cut behind).push d else (cut (d :: behind)).push c
    else if c = '{' then
      match _ : holeEnd? 0 none rest with
      | none => ⟨[], some .openHole⟩
      | some (inside, behind) =>
        let hole := Text.trim inside
        if hole.isEmpty then ⟨[], some .emptyHole⟩
        else
          let all := cut behind
          { all with parts := .hole hole :: all.parts }
    else (cut rest).push c
termination_by source => source.length
decreasing_by
  · simp only [List.length_cons]; omega
  · simp
  · have length := congrArg List.length (holeEnd?_whole (by assumption))
    simp at length ⊢
    omega
  · simp

/-- The number of opening braces in a text. -/
def openBraces (chars : List Char) : Nat :=
  chars.count '{'

end Template

namespace Reading

open Template

/-- The parts of a text, read in order, with the expressions of its holes. -/
def segments (hole : List Char → Except Failure Expr) : List Part → Except Failure (List Segment)
  | [] => .ok []
  | .text chars :: rest => do return .text (String.ofList chars) :: (← segments hole rest)
  | .hole chars :: rest => do return .hole (← hole chars) :: (← segments hole rest)

/-- The expression that a text token stands for, given a reader of its holes. -/
def templateWith (hole : List Char → Except Failure Expr) (token : Token) :
    Except Failure Expr := do
  let all := cut token.text.toList
  let segments ← segments hole all.parts
  match all.problem with
  | some problem => .error (.complaint ⟨problem, some token⟩)
  | none =>
    match segments with
    | [] => return .literal (.text "") token.position
    | [.text s] => return .literal (.text s) token.position
    | segments => return .template segments token.position

/-- The expression inside a hole of a text token. What is wrong with it is blamed on the token. -/
def hole (template : Token → Except Failure Expr) (token : Token) (chars : List Char) :
    Except Failure Expr :=
  let blame (reason : String) : Except Failure Expr :=
    .error (.complaint ⟨.badHole (String.ofList chars) reason, some token⟩)
  match Lexer.scan .start chars with
  | .error e => blame e.problem.message
  | .ok stream =>
    match expression template (.all stream.tokens) with
    | .error (.complaint complaint) => blame complaint.message
    | .error (.numeral digits) => .error (.numeral digits)
    | .ok inner =>
      match inner.rest.tokens with
      | [] => .ok (inner.value.relocate token.position)
      | rest => blame (Complaint.message ⟨.trailingInput, rest.head?⟩)

/-- The expression that a text token stands for, with holes nested at most `depth` levels deep. -/
def templateWithin : (depth : Nat) → Token → Except Failure Expr
  | 0, token => templateWith (fun _ => .error (.complaint ⟨.openHole, some token⟩)) token
  | depth + 1, token => templateWith (hole (templateWithin depth) token) token

/-- The expression that a text token stands for. -/
def template (token : Token) : Except Failure Expr :=
  templateWithin (openBraces token.text.toList) token

end Reading

end BotScript
