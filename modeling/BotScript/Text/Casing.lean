import BotScript.Text.CaseTables
import BotScript.Text.CharClass

/-!
Case mappings of whole texts: lower case, upper case and the folding under which texts are compared
without regard to case. A mapping may lengthen a text; only the Greek capital sigma looks at its
neighbours.
-/

namespace BotScript.Text

/-- The image of a code point under the run that maps it, if one does. -/
def CaseRun.image? (run : CaseRun) (code : Nat) : Option Nat :=
  if run.first ≤ code && code ≤ run.last && (code - run.first) % run.step = 0 then
    some (code + run.offset).toNat
  else
    none

/-- A character mapped by the expansions first, then by the runs; unmapped characters stay. -/
def mapCase (runs : Array CaseRun) (expansions : Array (Nat × List Nat)) (c : Char) : List Char :=
  match expansions.find? fun entry => entry.1 = c.toNat with
  | some entry => entry.2.map Char.ofNat
  | none => [Char.ofNat ((runs.findSome? (·.image? c.toNat)).getD c.toNat)]

/-- The lower case of one character taken alone. -/
def lowerChar (c : Char) : List Char :=
  if c.toNat < 0x80 then [c.toLower] else mapCase lowerRuns lowerExpansions c

/-- The upper case of one character. -/
def upperChar (c : Char) : List Char :=
  if c.toNat < 0x80 then [c.toUpper] else mapCase upperRuns upperExpansions c

/-- The case folding of one character. -/
def foldChar (c : Char) : List Char :=
  if c.toNat < 0x80 then [c.toLower] else mapCase foldRuns foldExpansions c

/-- Characters that the scan around a capital sigma passes over. -/
def isCaseSkipped (c : Char) : Bool :=
  if c.toNat < 0x80 then c = '\'' || c = '.' || c = ':' || c = '^' || c = '`'
    else within caseSkippedRanges c.toNat

/-- Characters that have a case. -/
def isCased (c : Char) : Bool :=
  if c.toNat < 0x80 then c.isAlpha else within casedRanges c.toNat

/-- The nearest character that is not passed over has a case. -/
def meetsCased (chars : List Char) : Bool :=
  match chars.dropWhile isCaseSkipped with
  | [] => false
  | c :: _ => isCased c

/-- Lower case of `rest`, which follows the characters `before` (nearest first). A capital sigma
that ends a word becomes the final form. -/
def lowerAfter (before : List Char) : List Char → List Char
  | [] => []
  | c :: rest =>
    let image :=
      if c.toNat = 0x3a3 then
        [if meetsCased before && !meetsCased rest then Char.ofNat 0x3c2 else Char.ofNat 0x3c3]
      else
        lowerChar c
    image ++ lowerAfter (c :: before) rest

/-- The lower case of a text. -/
def lower (s : String) : String :=
  String.ofList (lowerAfter [] s.toList)

/-- The upper case of a text. -/
def upper (s : String) : String :=
  String.ofList (s.toList.flatMap upperChar)

/-- The folded form of a text: two texts that differ in case alone have one folded form. -/
def fold (s : String) : List Char :=
  s.toList.flatMap foldChar

/-- `part` occurs in `whole` as a contiguous run. -/
def occursIn (part whole : List Char) : Bool :=
  part.isPrefixOf whole ||
    match whole with
    | [] => false
    | _ :: rest => occursIn part rest

/-- `needle` occurs in `haystack` when case is disregarded. -/
def containsFolded (haystack needle : String) : Bool :=
  occursIn (fold needle) (fold haystack)

end BotScript.Text
