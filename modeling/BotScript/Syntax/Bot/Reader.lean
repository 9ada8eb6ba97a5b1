import BotScript.Syntax.Stmt.Reader

/-!
Declarations read from tokens, up to whole programs. In a bot the description, memory and tools come
before the handlers, and there is at least one handler.
-/

namespace BotScript.Reading

variable {n : Nat}

/-- A type name behind a memory variable: an undotted name, or `any` when there is none. -/
def typeName (source : Source n) : Trailing String source :=
  match source.next? with
  | none => .absent "any"
  | some name =>
    if name.value.kind = .name && !name.value.isDotted then (name.map Token.text).trailing
      else .absent "any"

/-- The variable behind the word `var`. -/
def memoryVariable (p : Position) : Reading n MemoryVariable :=
  fun source => do
    let name ← bindingName .memoryBlock source
    let colon := skip (·.kind = .colon) name.rest
    let type := typeName colon.rest
    return (name.andPerhaps (colon.andPerhaps type)).map fun type => ⟨name.value, type, p⟩

/-- The variables of a memory block up to its end; `before` holds those in front. -/
def memoryVariables (before : List MemoryVariable) (source : Source n) :
    Except Failure (Parsed (List MemoryVariable) source) :=
  match source.next? with
  | none => want .memoryVariable source
  | some word =>
    if word.value.isKeyword "end" then .ok (word.map fun _ => before)
    else if word.value.isKeyword "var" then do
      let next ← memoryVariable word.value.position word.rest
      if before.any (·.name = next.value.name) then
        complain (.duplicateMemoryVariable next.value.name) source
      else
        let all ← memoryVariables (before ++ [next.value]) next.rest
        return word.andThen (next.andThen all)
    else want .memoryVariable source
termination_by source.tokens.length
decreasing_by exact (word.andThen next).shorter

/-- The memory block behind the word `memory`. -/
def memoryBlock (p : Position) : Reading n MemoryBlock :=
  fun source =>
    match source.next? with
    | none => want .memoryScope source
    | some word =>
      match if word.value.kind = .keyword then Scope.ofName? word.value.text else none with
      | none => want .memoryScope source
      | some scope => do
        let all ← memoryVariables [] word.rest
        return (word.andThen all).map (⟨scope, ·, p⟩)

/-- Tool names separated by commas. -/
def toolNames (source : Source n) : Except Failure (Parsed (List String) source) := do
  let first ← token (·.kind = .name) .listedTool source
  match first.rest.next? with
  | none => return first.map ([·.text])
  | some comma =>
    if comma.value.kind = .comma then do
      let others ← toolNames comma.rest
      return (first.andThen (comma.andThen others)).map (first.value.text :: ·)
    else return first.map ([·.text])
termination_by source.tokens.length
decreasing_by exact (first.andThen comma).shorter

/-- The bracket that closes the one that a token opens. -/
def closing? (token : Token) : Option TokenKind :=
  if token.kind = .leftParen then some .rightParen
  else if token.kind = .leftBracket then some .rightBracket
  else none

/-- The tool names behind the word `tools`, with or without brackets around them. -/
def tools : Reading n (List String) :=
  fun source =>
    match source.next? with
    | none => want .listedTool source
    | some opening =>
      match closing? opening.value with
      | none => toolNames source
      | some kind => do
        let names ← toolNames opening.rest
        let closing ← token (·.kind = kind) .toolsEnd names.rest
        return (opening.andThen (names.andThen closing)).map fun _ => names.value

/-- The event that a handler answers. -/
def isEvent (token : Token) : Bool :=
  token.isKeyword "input" || (token.kind = .name && !token.isDotted)

/-- The guard of a handler, if the word `when` comes next. -/
def guard (source : Source n) : Except Failure (Trailing (Option Expr) source) :=
  match source.next? with
  | none => .ok (.absent none)
  | some word =>
    if word.value.isKeyword "when" then do
      let inner ← expression template word.rest
      return ((word.andThen inner).map some).trailing
    else .ok (.absent none)

/-- The handler behind the word `on`. -/
def handler (p : Position) : Reading n Handler :=
  fun source => do
    let event ← token isEvent .event source
    let condition ← guard event.rest
    let statements ← body (.handler event.value.text) condition.rest
    return (event.andThen (condition.andThen statements)).map fun all =>
      ⟨event.value.text, condition.value, all.1, p⟩

/-- A bot as messages name it. -/
def ownerOf (bot : Bot) : String :=
  s!"{bot.kind.word} '{bot.name}'"

/-- The keyword declares something that comes before the handlers. -/
def isEarly (token : Token) : Bool :=
  token.isKeyword "description" || token.isKeyword "memory" || token.isKeyword "tools"

/-- One more declaration behind its first word, unless the word declares nothing here. -/
def declaration (bot : Bot) (word : Token) : Reading n Bot :=
  fun source => do
    if word.isKeyword "on" then
      return (← handler word.position source).map fun next =>
        { bot with handlers := bot.handlers ++ [next] }
    else if word.isKeyword "description" then
      return (← token Token.isString .descriptionText source).map fun next =>
        { bot with description := some next.text }
    else if word.isKeyword "memory" then
      return (← memoryBlock word.position source).map fun next =>
        { bot with memory := bot.memory ++ [next] }
    else
      return (← tools source).map fun next => { bot with tools := bot.tools ++ next }

/-- What is wrong with a word among the declarations of a bot, if anything is. -/
def declarationProblem? (bot : Bot) (word : Token) : Option Problem :=
  if word.kind ≠ .keyword then some (.wanted (.declaration (ownerOf bot)))
  else if word.isKeyword "on" then none
  else if !bot.handlers.isEmpty && isEarly word then some (.lateDeclaration word.text (ownerOf bot))
  else if word.isKeyword "description" && bot.description.isSome then
    some (.duplicateDescription (ownerOf bot))
  else if isEarly word then none
  else some (.wanted (.declarationWord (ownerOf bot)))

/-- The declarations of a bot up to its end; `bot` holds those in front and `name` is the token that
names it. -/
def declarations (bot : Bot) (name : Token) (source : Source n) :
    Except Failure (Parsed Bot source) :=
  match source.next? with
  | none => want (.botEnd (ownerOf bot)) source
  | some word =>
    if word.value.isKeyword "end" then
      if bot.handlers.isEmpty then .error (.complaint ⟨.noHandlers (ownerOf bot), some name⟩)
      else .ok (word.map fun _ => bot)
    else
      match declarationProblem? bot word.value with
      | some problem => complain problem source
      | none => do
        let next ← declaration bot word.value word.rest
        let all ← declarations next.value name next.rest
        return word.andThen (next.andThen all)
termination_by source.tokens.length
decreasing_by exact (word.andThen next).shorter

/-- The kind of bot that a token declares. -/
def botKind? (token : Token) : Option BotKind :=
  if token.isKeyword "bot" then some .bot
  else if token.isKeyword "agent" then some .agent
  else none

/-- The bot behind the word that declares it. -/
def bot (kind : BotKind) (p : Position) : Reading n Bot :=
  (token (fun t => t.kind = .name || t.kind = .string) (.botName kind)).andThen fun name =>
    declarations ⟨name.text, kind, none, [], [], [], p⟩ name

/-- The bots of a program up to its end; `before` holds those in front. -/
def bots (before : List Bot) (source : Source n) : Except Failure (List Bot) :=
  match source.next? with
  | none => if before.isEmpty then want .someBot source else .ok before
  | some word =>
    match botKind? word.value with
    | none => want .bot source
    | some kind => do
      let next ← bot kind word.value.position word.rest
      if before.any (·.name = next.value.name) then complain (.duplicateBot next.value.name) source
      else bots (before ++ [next.value]) next.rest
termination_by source.tokens.length
decreasing_by exact (word.andThen next).shorter

/-- A program. -/
def program (tokens : List Token) : Except Failure Program := do
  return ⟨← bots [] (.all tokens)⟩

end Reading

/-- The program that a text is. -/
def parseProgram (source : String) : Except SyntaxError Program :=
  match tokenize source with
  | .error e => .error (.lexical e)
  | .ok stream => (Reading.program stream.tokens).mapError (.ofFailure stream.finish)

/-- The expression at the start of a text and the tokens behind it. -/
def parseExpression (source : String) : Except SyntaxError (Expr × TokenStream) :=
  match tokenize source with
  | .error e => .error (.lexical e)
  | .ok stream =>
    match Reading.expression Reading.template (.all stream.tokens) with
    | .error failure => .error (.ofFailure stream.finish failure)
    | .ok inner => .ok (inner.value, ⟨inner.rest.tokens, stream.finish⟩)

end BotScript
