import BotScript.Syntax.Bot.Reader

/-! The grammar of the language. Each relation says that some tokens start with a phrase, what the
phrase means and which tokens are left behind it; a whole program leaves none. Nothing here says how
a phrase is found. -/

namespace BotScript.Grammar

open Reading (isOperator isComparison isReference isObjectKey isEvent compare coalesceAll
  referenceOf numberOf)

/-- The position of the first of some tokens. -/
def positionOf (tokens : List Token) : Position :=
  (tokens.head?.map Token.position).getD .start

/-! ## Expressions -/

/-- How tightly an expression binds, from the loosest to the tightest. -/
inductive Level
  | or
  | and
  | not
  | comparison
  | concat
  | coalesce
  | operand
deriving DecidableEq

/-- An operator between two or more parts, and what it makes of them. -/
structure Joint where
  joins : Token → Bool
  join : List Expr → Position → Expr

namespace Level

/-- The next tighter level. -/
def tighter? : Level → Option Level
  | or => some and
  | and => some not
  | not => some comparison
  | comparison => some concat
  | concat => some coalesce
  | coalesce => some operand
  | operand => none

/-- The operator that joins the parts of a level. Parts of `??` group to the left, the others are
kept in one list. -/
def joint? : Level → Option Joint
  | or => some ⟨(·.isKeyword "or"), .junction .or⟩
  | and => some ⟨(·.isKeyword "and"), .junction .and⟩
  | concat => some ⟨isOperator "+", .concat⟩
  | coalesce => some ⟨isOperator "??", coalesceAll⟩
  | _ => none

/-- A token with which an expression of some level can go on. -/
def continues : Level → Token → Bool
  | operand, _ => false
  | coalesce, t => isOperator "??" t
  | concat, t => isOperator "+" t || isOperator "??" t
  | comparison, t | not, t => isComparison t || isOperator "+" t || isOperator "??" t
  | and, t => t.isKeyword "and" || isComparison t || isOperator "+" t || isOperator "??" t
  | or, t =>
    t.isKeyword "or" || t.isKeyword "and" || isComparison t || isOperator "+" t || isOperator "??" t

end Level

/-- What texts in quotes stand for. -/
abbrev Templates := Token → Except Failure Expr

mutual

/-- Tokens start with an expression of a level. -/
inductive Expression (template : Templates) : Level → List Token → Expr → List Token → Prop
  | tighter {level next : Level} {ts rest : List Token} {e : Expr}
      (binds : level.tighter? = some next) (inner : Expression template next ts e rest) :
      Expression template level ts e rest
  | joined {level next : Level} {joint : Joint} {ts rest : List Token} {parts : List Expr}
      (binds : level.tighter? = some next) (links : level.joint? = some joint)
      (all : Parts template next joint ts parts rest) (several : 2 ≤ parts.length) :
      Expression template level ts (joint.join parts (positionOf ts)) rest
  | negation {word : Token} {ts rest : List Token} {e : Expr} (negates : word.isKeyword "not")
      (inner : Expression template .not ts e rest) :
      Expression template .not (word :: ts) (.negation e word.position) rest
  | comparison {sign : Token} {ts more rest : List Token} {left right : Expr}
      (compares : isComparison sign) (first : Expression template .concat ts left (sign :: more))
      (second : Expression template .concat more right rest) :
      Expression template .comparison ts (compare sign left right (positionOf ts)) rest
  | string {t : Token} {rest : List Token} {e : Expr} (quoted : t.isString)
      (stands : template t = .ok e) :
      Expression template .operand (t :: rest) e rest
  | number {t : Token} {rest : List Token} {value : Value} (digits : t.kind = .number)
      (stands : numberOf t = .ok value) :
      Expression template .operand (t :: rest) (.literal value t.position) rest
  | truth {t : Token} {rest : List Token} (word : t.isKeyword "true" || t.isKeyword "false") :
      Expression template .operand (t :: rest)
        (.literal (.boolean (t.text = "true")) t.position) rest
  | null {t : Token} {rest : List Token} (word : t.is .name "null") :
      Expression template .operand (t :: rest) (.literal .null t.position) rest
  | reference {t : Token} {rest : List Token} (names : isReference t)
      (other : t.is .name "null" = false) :
      Expression template .operand (t :: rest) (referenceOf t) rest
  | list {t : Token} {ts rest : List Token} {es : List Expr} (opens : t.kind = .leftBracket)
      (all : Items template ts es rest) :
      Expression template .operand (t :: ts) (.list es t.position) rest
  | object {t : Token} {ts rest : List Token} {fields : List (String × Expr)}
      (opens : t.kind = .leftBrace) (all : Fields template ts fields rest)
      (distinct : Entries.Distinct fields) :
      Expression template .operand (t :: ts) (.object fields t.position) rest
  | group {t close : Token} {ts rest : List Token} {e : Expr} (opens : t.kind = .leftParen)
      (inner : Expression template .or ts e (close :: rest)) (closes : close.kind = .rightParen) :
      Expression template .operand (t :: ts) e rest

/-- One or more expressions of a level with an operator between them. -/
inductive Parts (template : Templates) : Level → Joint → List Token → List Expr → List Token → Prop
  | last {level : Level} {joint : Joint} {ts rest : List Token} {e : Expr}
      (only : Expression template level ts e rest) : Parts template level joint ts [e] rest
  | more {level : Level} {joint : Joint} {link : Token} {ts behind rest : List Token} {e : Expr}
      {es : List Expr} (first : Expression template level ts e (link :: behind))
      (joins : joint.joins link) (others : Parts template level joint behind es rest) :
      Parts template level joint ts (e :: es) rest

/-- The rest of a list behind its opening bracket. -/
inductive Items (template : Templates) : List Token → List Expr → List Token → Prop
  | close {t : Token} {rest : List Token} (closes : t.kind = .rightBracket) :
      Items template (t :: rest) [] rest
  | last {close : Token} {ts rest : List Token} {e : Expr}
      (only : Expression template .or ts e (close :: rest)) (closes : close.kind = .rightBracket) :
      Items template ts [e] rest
  | more {comma : Token} {ts behind rest : List Token} {e : Expr} {es : List Expr}
      (first : Expression template .or ts e (comma :: behind)) (separates : comma.kind = .comma)
      (others : Items template behind es rest) : Items template ts (e :: es) rest

/-- The rest of an object behind its opening brace. -/
inductive Fields (template : Templates) : List Token → List (String × Expr) → List Token → Prop
  | close {t : Token} {rest : List Token} (closes : t.kind = .rightBrace) :
      Fields template (t :: rest) [] rest
  | last {key colon close : Token} {ts rest : List Token} {e : Expr} (named : isObjectKey key)
      (means : colon.kind = .colon) (only : Expression template .or ts e (close :: rest))
      (closes : close.kind = .rightBrace) :
      Fields template (key :: colon :: ts) [(key.text, e)] rest
  | more {key colon comma : Token} {ts behind rest : List Token} {e : Expr}
      {fields : List (String × Expr)} (named : isObjectKey key) (means : colon.kind = .colon)
      (first : Expression template .or ts e (comma :: behind)) (separates : comma.kind = .comma)
      (others : Fields template behind fields rest) :
      Fields template (key :: colon :: ts) ((key.text, e) :: fields) rest

end

/-! ## Statements -/

/-- The token is a plain variable name. -/
def isBinding (t : Token) : Bool :=
  (t.kind = .dollarName || t.kind = .name) && !t.isDotted

/-- The token may stand between a variable and the value that it is set to. -/
def isLink (t : Token) : Bool :=
  isOperator "=" t || t.is .name "to"

/-- The token may name an option. -/
def isOptionName (t : Token) : Bool :=
  t.kind = .name || t.kind = .keyword

/-- Tokens start with an expression of a program. -/
abbrev Term (ts : List Token) (e : Expr) (rest : List Token) : Prop :=
  Expression Reading.template .or ts e rest

/-- The tokens of a whole expression. -/
abbrev IsExpression (tokens : List Token) (e : Expr) : Prop :=
  Term tokens e []

/-- A plain variable behind the word `as`, or nothing. -/
inductive Naming : List Token → Option String → List Token → Prop
  | absent (rest : List Token) : Naming rest none rest
  | named {word name : Token} {rest : List Token} (binds : word.isKeyword "as")
      (plain : isBinding name) :
      Naming (word :: name :: rest) (some name.text) rest

/-- One or more options without braces. -/
inductive Choices : List Token → List (String × Expr) → List Token → Prop
  | last {key colon : Token} {ts rest : List Token} {e : Expr} (named : isOptionName key)
      (means : colon.kind = .colon) (only : Term ts e rest) :
      Choices (key :: colon :: ts) [(key.text, e)] rest
  | more {key colon comma : Token} {ts behind rest : List Token} {e : Expr}
      {others : List (String × Expr)} (named : isOptionName key) (means : colon.kind = .colon)
      (first : Term ts e (comma :: behind)) (separates : comma.kind = .comma)
      (further : Choices behind others rest) :
      Choices (key :: colon :: ts) ((key.text, e) :: others) rest

/-- An object in braces. -/
inductive Braces : List Token → List (String × Expr) → List Token → Prop
  | object {t : Token} {ts rest : List Token} {fields : List (String × Expr)}
      (opens : t.kind = .leftBrace) (all : Fields Reading.template ts fields rest)
      (distinct : Entries.Distinct fields) : Braces (t :: ts) fields rest

/-- The options of a prompt, in braces or without, or nothing. -/
inductive Options : List Token → List (String × Expr) → List Token → Prop
  | absent (rest : List Token) : Options rest [] rest
  | braces {word : Token} {ts rest : List Token} {fields : List (String × Expr)}
      (introduces : word.isKeyword "with")
      (all : Braces ts fields rest) : Options (word :: ts) fields rest
  | bare {word : Token} {ts rest : List Token} {choices : List (String × Expr)}
      (introduces : word.isKeyword "with") (all : Choices ts choices rest) :
      Options (word :: ts) (Entries.ofList choices) rest

/-- The link of a `set` may be left out anywhere. -/
abbrev optional (_ : Token) : Bool :=
  true

/-- The link of a `set` may be left out before any token that could not be the link. -/
abbrev unlinked (t : Token) : Bool :=
  !isLink t

/-- A link between a variable and its value. It may be left out before tokens that pass a test. -/
inductive Link (free : Token → Bool) : List Token → List Token → Prop
  | word {t : Token} {rest : List Token} (links : isLink t) : Link free (t :: rest) rest
  | absent {rest : List Token} (allowed : rest.head?.all free) : Link free rest rest

mutual

/-- Tokens start with a statement. `free` tells before which tokens the link of a `set` may be left
out. -/
inductive Statement (free : Token → Bool) : List Token → Stmt → List Token → Prop
  | say {word : Token} {ts rest : List Token} {e : Expr} (opens : word.isKeyword "say")
      (said : Term ts e rest) :
      Statement free (word :: ts) (.say e word.position) rest
  | ask {word assistant : Token} {ts behind rest : List Token} {prompt : Expr}
      {options : List (String × Expr)} (opens : word.isKeyword "ask")
      (addressed : assistant.is .name "ai") (asked : Term ts prompt behind)
      (chosen : Options behind options rest) :
      Statement free (word :: assistant :: ts) (.ask prompt options word.position) rest
  | set {word name : Token} {ts behind rest : List Token} {e : Expr} (opens : word.isKeyword "set")
      (plain : isBinding name) (link : Link free ts behind) (given : Term behind e rest) :
      Statement free (word :: name :: ts) (.set name.text e word.position) rest
  | call {word tool link : Token} {ts behind rest : List Token} {args : List (String × Expr)}
      {name : Option String} (opens : word.isKeyword "call") (named : tool.kind = .name)
      (introduces : link.isKeyword "with") (given : Braces ts args behind)
      (bound : Naming behind name rest) :
      Statement free (word :: tool :: link :: ts) (.call tool.text args name word.position) rest
  | branch {word stop : Token} {ts behind rest : List Token} {condition : Expr}
      {thenBody : List Stmt} (opens : word.isKeyword "if") (tested : Term ts condition behind)
      (body : Statements free behind thenBody (stop :: rest)) (closes : stop.isKeyword "end") :
      Statement free (word :: ts) (.branch condition thenBody none word.position) rest
  | branchElse {word middle stop : Token} {ts behind between rest : List Token} {condition : Expr}
      {thenBody elseBody : List Stmt} (opens : word.isKeyword "if")
      (tested : Term ts condition behind)
      (body : Statements free behind thenBody (middle :: between)) (turns : middle.isKeyword "else")
      (other : Statements free between elseBody (stop :: rest)) (closes : stop.isKeyword "end") :
      Statement free (word :: ts) (.branch condition thenBody (some elseBody) word.position) rest
  | loop {word item link collection stop : Token} {ts rest : List Token} {body : List Stmt}
      (opens : word.isKeyword "loop") (plain : isBinding item) (introduces : link.isKeyword "in")
      (names : isReference collection) (inner : Statements free ts body (stop :: rest))
      (closes : stop.isKeyword "end") :
      Statement free (word :: item :: link :: collection :: ts)
        (.loop item.text (referenceOf collection) body word.position) rest
  | remember {word link : Token} {ts behind rest : List Token} {key value : Expr}
      (opens : word.isKeyword "remember") (keyed : Term ts key (link :: behind))
      (replaces : link.isKeyword "as") (given : Term behind value rest) :
      Statement free (word :: ts) (.remember key value .set word.position) rest
  | rememberMore {word link : Token} {ts behind rest : List Token} {key value : Expr}
      (opens : word.isKeyword "remember") (keyed : Term ts key (link :: behind))
      (appends : link.is .name "append") (given : Term behind value rest) :
      Statement free (word :: ts) (.remember key value .append word.position) rest
  | recollect {word : Token} {ts behind rest : List Token} {key : Expr} {name : Option String}
      (opens : word.is .name "recall") (keyed : Term ts key behind)
      (bound : Naming behind name rest) :
      Statement free (word :: ts) (.recollect key (name.getD Stmt.resultName) word.position) rest

/-- Tokens start with some statements, one behind the other. -/
inductive Statements (free : Token → Bool) : List Token → List Stmt → List Token → Prop
  | none (rest : List Token) : Statements free rest [] rest
  | more {ts behind rest : List Token} {stmt : Stmt} {stmts : List Stmt}
      (first : Statement free ts stmt behind) (others : Statements free behind stmts rest) :
      Statements free ts (stmt :: stmts) rest

end

/-! ## Declarations -/

/-- The type of a memory variable, if there is one. -/
inductive TypeName : List Token → String → List Token → Prop
  | absent (rest : List Token) : TypeName rest "any" rest
  | named {t : Token} {rest : List Token} (name : t.kind = .name) (plain : t.isDotted = false) :
      TypeName (t :: rest) t.text rest

/-- A colon, or nothing. -/
inductive Colon : List Token → List Token → Prop
  | absent (rest : List Token) : Colon rest rest
  | present {t : Token} {rest : List Token} (colon : t.kind = .colon) : Colon (t :: rest) rest

/-- The variables of a memory block, up to its end. -/
inductive Variables : List Token → List MemoryVariable → List Token → Prop
  | close {stop : Token} {rest : List Token} (closes : stop.isKeyword "end") :
      Variables (stop :: rest) [] rest
  | more {word name : Token} {ts typed behind rest : List Token} {typeName : String}
      {others : List MemoryVariable} (opens : word.isKeyword "var") (plain : isBinding name)
      (colon : Colon ts typed) (type : TypeName typed typeName behind)
      (further : Variables behind others rest) :
      Variables (word :: name :: ts) (⟨name.text, typeName, word.position⟩ :: others) rest

/-- One or more tool names with commas between them. -/
inductive ToolNames : List Token → List String → List Token → Prop
  | last {t : Token} {rest : List Token}
      (name : t.kind = .name) : ToolNames (t :: rest) [t.text] rest
  | more {t comma : Token} {ts rest : List Token} {others : List String} (name : t.kind = .name)
      (separates : comma.kind = .comma) (further : ToolNames ts others rest) :
      ToolNames (t :: comma :: ts) (t.text :: others) rest

/-- A declaration that comes before the handlers. -/
inductive Early
  | description (text : String)
  | memory (block : MemoryBlock)
  | tools (names : List String)

namespace Early

def description? : Early → Option String
  | description text => some text
  | _ => none

def memory? : Early → Option MemoryBlock
  | memory block => some block
  | _ => none

def tools? : Early → Option (List String)
  | tools names => some names
  | _ => none

end Early

/-- Tokens start with a declaration that comes before the handlers. -/
inductive EarlyDeclaration : List Token → Early → List Token → Prop
  | description {word text : Token} {rest : List Token} (opens : word.isKeyword "description")
      (quoted : text.isString) :
      EarlyDeclaration (word :: text :: rest) (.description text.text) rest
  | memory {word owner : Token} {ts rest : List Token} {scope : Scope} {vars : List MemoryVariable}
      (opens : word.isKeyword "memory") (keyword : owner.kind = .keyword)
      (known : Scope.ofName? owner.text = some scope) (all : Variables ts vars rest)
      (distinct : (vars.map MemoryVariable.name).Nodup) :
      EarlyDeclaration (word :: owner :: ts) (.memory ⟨scope, vars, word.position⟩) rest
  | tools {word : Token} {ts rest : List Token} {names : List String}
      (opens : word.isKeyword "tools") (all : ToolNames ts names rest) :
      EarlyDeclaration (word :: ts) (.tools names) rest
  | toolsInside {word opening closing : Token} {kind : TokenKind} {ts rest : List Token}
      {names : List String} (opens : word.isKeyword "tools")
      (bracket : Reading.closing? opening = some kind) (all : ToolNames ts names (closing :: rest))
      (closes : closing.kind = kind) :
      EarlyDeclaration (word :: opening :: ts) (.tools names) rest

/-- Some declarations before the handlers. -/
inductive Preamble : List Token → List Early → List Token → Prop
  | none (rest : List Token) : Preamble rest [] rest
  | more {ts behind rest : List Token} {declaration : Early} {others : List Early}
      (first : EarlyDeclaration ts declaration behind) (further : Preamble behind others rest) :
      Preamble ts (declaration :: others) rest

/-- The guard of a handler, or nothing. -/
inductive Guard : List Token → Option Expr → List Token → Prop
  | absent (rest : List Token) : Guard rest none rest
  | present {word : Token} {ts rest : List Token} {e : Expr} (introduces : word.isKeyword "when")
      (condition : Term ts e rest) : Guard (word :: ts) (some e) rest

/-- Tokens start with a handler. -/
inductive Handling (free : Token → Bool) : List Token → Handler → List Token → Prop
  | on {word event stop : Token} {ts inside rest : List Token} {condition : Option Expr}
      {body : List Stmt} (opens : word.isKeyword "on") (answers : isEvent event)
      (guard : Guard ts condition inside) (statements : Statements free inside body (stop :: rest))
      (closes : stop.isKeyword "end") :
      Handling free (word :: event :: ts) ⟨event.text, condition, body, word.position⟩ rest

/-- Some handlers, one behind the other. -/
inductive Handlers (free : Token → Bool) : List Token → List Handler → List Token → Prop
  | none (rest : List Token) : Handlers free rest [] rest
  | more {ts behind rest : List Token} {handler : Handler} {others : List Handler}
      (first : Handling free ts handler behind) (further : Handlers free behind others rest) :
      Handlers free ts (handler :: others) rest

/-- The bot that some declarations make up. -/
def botOf (kind : BotKind) (name : String) (p : Position) (early : List Early)
    (handlers : List Handler) : Bot where
  name := name
  kind := kind
  description := (early.filterMap Early.description?).head?
  memory := early.filterMap Early.memory?
  tools := (early.filterMap Early.tools?).flatten
  handlers := handlers
  position := p

/-- Some bots up to the end of all tokens. -/
inductive Bots (free : Token → Bool) : List Token → List Bot → Prop
  | none : Bots free [] []
  | more {word name stop : Token} {kind : BotKind} {ts handled behind : List Token}
      {early : List Early} {handlers : List Handler} {others : List Bot}
      (opens : Reading.botKind? word = some kind) (named : name.kind = .name || name.kind = .string)
      (declared : Preamble ts early handled)
      (once : (early.filterMap Early.description?).length ≤ 1)
      (answered : Handlers free handled handlers (stop :: behind)) (nonempty : handlers ≠ [])
      (closes : stop.isKeyword "end") (further : Bots free behind others) :
      Bots free (word :: name :: ts) (botOf kind name.text word.position early handlers :: others)

/-- The tokens of a whole program: one or more bots with different names. -/
structure IsProgram (free : Token → Bool) (tokens : List Token) (program : Program) : Prop where
  bots : Bots free tokens program.bots
  nonempty : program.bots ≠ []
  distinct : (program.bots.map Bot.name).Nodup

end BotScript.Grammar
