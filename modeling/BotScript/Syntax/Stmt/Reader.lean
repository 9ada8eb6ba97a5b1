import BotScript.Syntax.Template

/-!
Statements read from tokens. The leading word decides which statement it is; bodies run up to the
keyword that closes them.
-/

namespace BotScript.Reading

variable {n : Nat}

/-- Statements up to the keyword that closes a block, and that keyword. -/
def block (owner : BlockOwner) (statement : Reading n Stmt) (source : Source n) :
    Except Failure (Parsed (List Stmt × Token) source) :=
  match source.next? with
  | none => want (.blockEnd owner) source
  | some next =>
    if owner.isClosedBy next.value then .ok (next.map fun t => ([], t))
    else do
      let first ← statement source
      let others ← block owner statement first.rest
      return (first.andThen others).map fun all => (first.value :: all.1, all.2)
termination_by source.tokens.length
decreasing_by exact first.shorter

/-- Options behind `with` that are not in braces: names with values, separated by commas. A name
that is written twice keeps its first place and its last value. -/
def bareOptions (before : List (String × Expr)) (source : Source n) :
    Except Failure (Parsed (List (String × Expr)) source) := do
  let key ← token (fun t => t.kind = .name || t.kind = .keyword) .optionName source
  let colon ← symbol .colon ":" key.rest
  let value ← expression template colon.rest
  let before := Entries.put before key.value.text value.value
  let option := key.andThen (colon.andThen value)
  match value.rest.next? with
  | none => return option.map fun _ => before
  | some comma =>
    if comma.value.kind = .comma then do
      let all ← bareOptions before comma.rest
      return key.andThen (colon.andThen (value.andThen (comma.andThen all)))
    else return option.map fun _ => before
termination_by source.tokens.length
decreasing_by exact (key.andThen (colon.andThen (value.andThen comma))).shorter

/-- The options of a prompt, if the word `with` comes next. -/
def options (source : Source n) : Except Failure (Trailing (List (String × Expr)) source) :=
  match source.next? with
  | none => .ok (.absent [])
  | some word =>
    if word.value.isKeyword "with" then do
      let all ←
        if word.rest.tokens.head?.any (·.kind = .leftBrace) then
          entries (expression template) word.rest
        else bareOptions [] word.rest
      return (word.andThen all).trailing
    else .ok (.absent [])

/-- The statement behind `say`. -/
def say (p : Position) : Reading n Stmt :=
  map (.say · p) (expression template)

/-- The statement behind `ask`. -/
def ask (p : Position) : Reading n Stmt :=
  fun source => do
    let word ← token (·.is .name "ai") .assistant source
    let prompt ← expression template word.rest
    let all ← options prompt.rest
    return (word.andThen (prompt.andPerhaps all)).map (.ask prompt.value · p)

/-- The statement behind `set`. An equals sign or the word `to` may stand before the value. -/
def set (p : Position) : Reading n Stmt :=
  fun source => do
    let name ← bindingName .set source
    let link := skip (fun t => isOperator "=" t || t.is .name "to") name.rest
    let value ← expression template link.rest
    return (name.andThen (link.andThen value)).map (.set name.value · p)

/-- The statement behind `call`. -/
def call (p : Position) : Reading n Stmt :=
  fun source => do
    let tool ← token (·.kind = .name) .toolName source
    let link ← token (·.isKeyword "with") (.arguments tool.value.text) tool.rest
    let args ← entries (expression template) link.rest
    let name ← bindingAfterAs .callResult args.rest
    return (tool.andThen (link.andThen (args.andPerhaps name))).map
      (.call tool.value.text args.value · p)

/-- The statement behind `remember`. -/
def remember (p : Position) : Reading n Stmt :=
  fun source => do
    let key ← expression template source
    let link ← token (fun t => t.isKeyword "as" || t.is .name "append") .rememberMode key.rest
    let value ← expression template link.rest
    let mode := if link.value.isKeyword "as" then RememberMode.set else .append
    return (key.andThen (link.andThen value)).map (.remember key.value · mode p)

/-- The statement behind `recall`. -/
def recollect (p : Position) : Reading n Stmt :=
  fun source => do
    let key ← expression template source
    let name ← bindingAfterAs .recallResult key.rest
    return (key.andPerhaps name).map fun name => .recollect key.value (name.getD Stmt.resultName) p

/-- The statement behind `if`, given a reading of the statements inside it. -/
def branch (statement : Reading n Stmt) (p : Position) : Reading n Stmt :=
  fun source => do
    let condition ← expression template source
    let thenBody ← block .ifBody statement condition.rest
    if thenBody.value.2.isKeyword "else" then
      let elseBody ← block .elseBody statement thenBody.rest
      return (condition.andThen (thenBody.andThen elseBody)).map fun body =>
        .branch condition.value thenBody.value.1 (some body.1) p
    else return (condition.andThen thenBody).map fun body => .branch condition.value body.1 none p

/-- The statement behind `loop`, given a reading of the statements inside it. -/
def loop (statement : Reading n Stmt) (p : Position) : Reading n Stmt :=
  fun source => do
    let item ← bindingName .loop source
    let link ← token (·.isKeyword "in") .loopSource item.rest
    let collection ← reference link.rest
    let body ← block .loopBody statement collection.rest
    return (item.andThen (link.andThen (collection.andThen body))).map fun body =>
      .loop item.value collection.value body.1 p

/-- The statement behind its first word, given a reading of the statements inside it. -/
def statementBehind (word : Token) (nested : Reading n Stmt) : Option (Reading n Stmt) :=
  if word.isKeyword "say" then some (say word.position)
  else if word.isKeyword "ask" then some (ask word.position)
  else if word.isKeyword "set" then some (set word.position)
  else if word.isKeyword "call" then some (call word.position)
  else if word.isKeyword "if" then some (branch nested word.position)
  else if word.isKeyword "loop" then some (loop nested word.position)
  else if word.isKeyword "remember" then some (remember word.position)
  else if word.is .name "recall" then some (recollect word.position)
  else none

/-- A statement, given a reading of the statements inside it. -/
def statementWith (nested : Reading n Stmt) : Reading (n + 1) Stmt :=
  fun source =>
    match source.next? with
    | none => want .statement source
    | some word =>
      match statementBehind word.value nested with
      | none => want .statement source
      | some statement => word.within statement

/-- A statement of fewer than `n` tokens. -/
def statement : {n : Nat} → Reading n Stmt
  | 0, source => impossible source
  | _ + 1, source => statementWith statement source

/-- The statements of a block, and the keyword that closes it. -/
def body (owner : BlockOwner) : Reading n (List Stmt × Token) :=
  block owner statement

end BotScript.Reading
