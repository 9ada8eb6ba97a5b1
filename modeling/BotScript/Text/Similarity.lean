import BotScript.Text.CodePoint

/-!
How alike two texts are. The similarity is twice the number of matched characters over the total
length, where the matched characters are found by taking the longest common block and repeating on
both sides of it. In a long word, characters that are too frequent do not start a block.
-/

namespace BotScript.Text

/-- A common block: it starts at `left` in one text and at `right` in the other. -/
structure Block where
  left : Nat
  right : Nat
  size : Nat
deriving DecidableEq, Repr

/-- Characters of a long word that occur too often to start a block. -/
def frequent (word : List Char) : List Char :=
  if word.length < 200 then []
  else word.eraseDups.filter fun c => word.count c > word.length / 100 + 1

/-- The lengths of the blocks that end at one character of the left text and each character of the
right text, from the lengths for the character before it. -/
def nextRow (ignored : List Char) (c : Char) (right : List Char) (row : List Nat) : List Nat :=
  List.zipWith (fun d before => if c = d && !ignored.contains d then before + 1 else 0)
    right (0 :: row)

/-- The better of `best` and the blocks ending at position `i` of the left text, the earliest of
equals. -/
def bestInRow (i : Nat) (row : List Nat) (best : Block) : Block :=
  (row.foldl (fun (state : Block × Nat) size =>
    let (best, j) := state
    (if size > best.size then ⟨i + 1 - size, j + 1 - size, size⟩ else best, j + 1)) (best, 0)).1

/-- The longest block over the rows of `left` from position `i` on. -/
def longestFrom (ignored : List Char) (right : List Char) :
    Nat → List Nat → Block → List Char → Block
  | _, _, best, [] => best
  | i, row, best, c :: left =>
    let row := nextRow ignored c right row
    longestFrom ignored right (i + 1) row (bestInRow i row best) left

/-- The length of the common prefix. -/
def commonPrefix : List Char → List Char → Nat
  | a :: left, b :: right => if a = b then commonPrefix left right + 1 else 0
  | _, _ => 0

/-- The longest common block, the earliest of equals, widened over ignored characters on both
sides. -/
def longestBlock (ignored left right : List Char) : Block :=
  let core := longestFrom ignored right 0 (right.map fun _ => 0) ⟨0, 0, 0⟩ left
  let before := commonPrefix (left.take core.left).reverse (right.take core.right).reverse
  let after :=
    commonPrefix (left.drop (core.left + core.size)) (right.drop (core.right + core.size))
  ⟨core.left - before, core.right - before, before + core.size + after⟩

/-- The number of characters of `left` matched in `right`. A block that is not empty starts inside
`left`. -/
def matched (ignored left right : List Char) : Nat :=
  match longestBlock ignored left right with
  | ⟨i, j, size⟩ =>
    if size = 0 ∨ left.length ≤ i then size
    else
      matched ignored (left.take i) (right.take j) + size +
        matched ignored (left.drop (i + size)) (right.drop (j + size))
termination_by left.length
decreasing_by all_goals simp_wf; omega

/-- A similarity as a fraction; two empty texts are alike. -/
structure Similarity where
  numerator : Nat
  denominator : Nat
deriving DecidableEq, Repr

/-- The similarity of a candidate to a word. -/
def similarity (word candidate : String) : Similarity :=
  let left := candidate.toList
  let right := word.toList
  let total := left.length + right.length
  if total = 0 then ⟨1, 1⟩ else ⟨2 * matched (frequent right) left right, total⟩

/-- Fractions are compared by cross multiplication. -/
def Similarity.lt (a b : Similarity) : Bool :=
  a.numerator * b.denominator < b.numerator * a.denominator

/-- At least three fifths of the characters match. -/
def Similarity.isClose (a : Similarity) : Bool :=
  3 * a.denominator ≤ 5 * a.numerator

/-- `a` is a better match than `b`: more alike, or as much alike and later in the order of texts. -/
def betterMatch (a b : Similarity × String) : Bool :=
  b.1.lt a.1 || (!a.1.lt b.1 && before b.2 a.2)

/-- The best match among the candidates that are close to the word. -/
def closest? (word : String) (candidates : List String) : Option String :=
  let close :=
    (candidates.map fun candidate => (similarity word candidate, candidate)).filter (·.1.isClose)
  (close.foldl (fun best next =>
    match best with
    | none => some next
    | some held => if betterMatch next held then some next else some held) none).map Prod.snd

end BotScript.Text
