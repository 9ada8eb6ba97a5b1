import BotScript.Entries
import BotScript.Number.Reading
import BotScript.Syntax.Reading

/-!
Expressions read from tokens. From the loosest to the tightest: `or`, `and`, `not`, one comparison,
`+`, `??`, and the operands, which hold whole expressions between brackets. Texts are turned into
expressions by a function that is passed in, because their holes are program texts of their own.
-/

namespace BotScript.Reading

variable {n : Nat}

/-- Keywords that read as variables where an expression stands. -/
def referenceWords : List String :=
  ["input", "output", "user", "session"]

/-- The token names a variable. -/
def isReference (token : Token) : Bool :=
  token.kind = .dollarName || token.kind = .name ||
    (token.kind = .keyword && referenceWords.contains token.text)

/-- The parts of a dotted name; there is always a first one. -/
def splitDots : List Char → List Char × List (List Char)
  | [] => ([], [])
  | c :: rest =>
    if c = '.' then ([], (splitDots rest).1 :: (splitDots rest).2)
    else (c :: (splitDots rest).1, (splitDots rest).2)

/-- The variable that a token names, or the field behind its dots. -/
def referenceOf (token : Token) : Expr :=
  let parts := splitDots token.text.toList
  let root := Expr.reference (String.ofList parts.1) token.position
  if parts.2.isEmpty then root else .property root (parts.2.map String.ofList) token.position

/-- A variable or a field of one. -/
def reference : Reading n Expr :=
  (token isReference .reference).map referenceOf

/-- The number that a token is, an integer unless it has a point. -/
def numberOf (token : Token) : Except Failure Value :=
  if token.isDotted then
    match Number.readFloat? token.text.toList with
    | some x => .ok (.number x)
    | none => .error (.numeral (.noFraction token.text))
  else
    match Number.readInt token.text.toList with
    | .ok i => .ok (.integer i)
    | .error flaw => .error (.numeral (.ofFlaw token.text flaw))

/-- Items up to a closing bracket. A comma stands between two items and may stand behind the last
one. -/
def items (expression : Reading n Expr) (source : Source n) :
    Except Failure (Parsed (List Expr) source) :=
  match source.next? with
  | none => want .expression source
  | some next =>
    if next.value.kind = .rightBracket then .ok (next.map fun _ => [])
    else do
      let first ← expression source
      let stop ← separator .rightBracket "]" first.rest
      if stop.value then
        let others ← items expression stop.rest
        return (first.andThen (stop.andThen others)).map (first.value :: ·)
      else return (first.andThen stop).map fun _ => [first.value]
termination_by source.tokens.length
decreasing_by exact (first.andThen stop).shorter

/-- The token may stand for the key of an object: a text, or a name or keyword without dots. -/
def isObjectKey (token : Token) : Bool :=
  token.kind = .string || ((token.kind = .name || token.kind = .keyword) && !token.isDotted)

/-- The rest of an object up to its closing brace; `before` holds the entries in front. -/
def entriesAfter (expression : Reading n Expr) (before : List (String × Expr)) (source : Source n) :
    Except Failure (Parsed (List (String × Expr)) source) :=
  match source.next? with
  | none => want .objectKey source
  | some key =>
    if key.value.kind = .rightBrace then .ok (key.map fun _ => before)
    else if !isObjectKey key.value then want .objectKey source
    else if Entries.has before key.value.text then complain (.duplicateKey key.value.text) source
    else do
      let colon ← symbol .colon ":" key.rest
      let value ← expression colon.rest
      let stop ← separator .rightBrace "\x7d" value.rest
      let before := before ++ [(key.value.text, value.value)]
      if stop.value then
        let all ← entriesAfter expression before stop.rest
        return key.andThen (colon.andThen (value.andThen (stop.andThen all)))
      else return (key.andThen (colon.andThen (value.andThen stop))).map fun _ => before
termination_by source.tokens.length
decreasing_by exact (key.andThen (colon.andThen (value.andThen stop))).shorter

/-- The entries of an object between braces. -/
def entries (expression : Reading n Expr) : Reading n (List (String × Expr)) :=
  (symbol .leftBrace "\x7b").andThen fun _ => entriesAfter expression []

/-- An operand, given a reading of the expressions inside it. -/
def operand (template : Token → Except Failure Expr) (nested : Reading n Expr) :
    Reading (n + 1) Expr :=
  fun source =>
    match source.next? with
    | none => want .expression source
    | some next =>
      let t := next.value
      if t.isString then do
        let value ← template t
        return next.map fun _ => value
      else if t.kind = .number then do
        let value ← numberOf t
        return next.map fun _ => .literal value t.position
      else if t.isKeyword "true" || t.isKeyword "false" then
        .ok (next.map fun _ => .literal (.boolean (t.text = "true")) t.position)
      else if t.is .name "null" then .ok (next.map fun _ => .literal .null t.position)
      else if isReference t then .ok (next.map referenceOf)
      else if t.kind = .leftBracket then next.within (map (.list · t.position) (items nested))
      else if t.kind = .leftBrace then
        next.within (map (.object · t.position) (entriesAfter nested []))
      else if t.kind = .leftParen then
        next.within (nested.andThen fun inner => (symbol .rightParen ")").map fun _ => inner)
      else want .expression source

/-- Parts joined by a token, at least one. -/
def chain (joins : Token → Bool) (part : Reading n Expr) (source : Source n) :
    Except Failure (Parsed (List Expr) source) := do
  let first ← part source
  match first.rest.next? with
  | none => return first.map ([·])
  | some link =>
    if joins link.value then do
      let others ← chain joins part link.rest
      return (first.andThen (link.andThen others)).map (first.value :: ·)
    else return first.map ([·])
termination_by source.tokens.length
decreasing_by exact (first.andThen link).shorter

/-- One part stands for itself; several are joined by an operator, which is blamed on the first
token. -/
def joined (join : List Expr → Position → Expr) (joins : Token → Bool) (part : Reading n Expr) :
    Reading n Expr :=
  fun source => do
    let all ← chain joins part source
    return all.map fun parts =>
      match parts with
      | [single] => single
      | parts => join parts source.position

/-- Parts joined by `??` group to the left. -/
def coalesceAll (parts : List Expr) (p : Position) : Expr :=
  match parts with
  | [] => .literal .null p
  | first :: others => others.foldl (fun left right => .coalesce left right p) first

def isOperator (text : String) (token : Token) : Bool :=
  token.is .operator text

def isComparison (token : Token) : Bool :=
  isOperator "==" token || isOperator "!=" token || token.isKeyword "contains"

/-- The comparison that a token stands for. -/
def compare (token : Token) (left right : Expr) (p : Position) : Expr :=
  if token.text = "contains" then .contains left right p
    else .equals left right (token.text = "!=") p

/-- At most one comparison of two parts. -/
def comparison (part : Reading n Expr) : Reading n Expr :=
  fun source => do
    let left ← part source
    match left.rest.next? with
    | none => return left
    | some sign =>
      if isComparison sign.value then do
        let right ← part sign.rest
        if right.rest.tokens.head?.any isComparison then complain .chainedComparison right.rest
        else
          return (left.andThen (sign.andThen right)).map fun value =>
            compare sign.value left.value value source.position
      else return left

/-- A condition with any number of negations in front. -/
def negated (part : Reading n Expr) (source : Source n) : Except Failure (Parsed Expr source) :=
  match source.next? with
  | none => part source
  | some word =>
    if word.value.isKeyword "not" then do
      let inner ← negated part word.rest
      return (word.andThen inner).map (.negation · word.value.position)
    else part source
termination_by source.tokens.length
decreasing_by exact word.shorter

/-- An expression, given a reading of the expressions inside it. -/
def expressionWith (template : Token → Except Failure Expr) (nested : Reading n Expr) :
    Reading (n + 1) Expr :=
  joined (.junction .or) (·.isKeyword "or") <|
  joined (.junction .and) (·.isKeyword "and") <|
  negated <|
  comparison <|
  joined .concat (isOperator "+") <|
  joined coalesceAll (isOperator "??") <|
  operand template nested

/-- An expression of fewer than `n` tokens. -/
def expression (template : Token → Except Failure Expr) : {n : Nat} → Reading n Expr
  | 0, source => impossible source
  | _ + 1, source => expressionWith template (expression template) source

end BotScript.Reading
