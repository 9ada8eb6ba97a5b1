import BotScript.Fault
import BotScript.Syntax.Lexer
import BotScript.Syntax.Program

/-!
What can be wrong with the tokens of a program. A complaint holds what was wanted or broken and the
token that is blamed; its message is written from these facts.
-/

namespace BotScript

/-- Where a plain variable name is required. -/
inductive BindingSite
  | set
  | callResult
  | recallResult
  | loop
  | memoryBlock
deriving DecidableEq, Repr

def BindingSite.text : BindingSite → String
  | set => "'set'"
  | callResult => "'call ... as'"
  | recallResult => "'recall ... as'"
  | loop => "'loop'"
  | memoryBlock => "memory block"

/-- What a block of statements belongs to. -/
inductive BlockOwner
  | ifBody
  | elseBody
  | loopBody
  | handler (event : String)
deriving DecidableEq, Repr

namespace BlockOwner

def text : BlockOwner → String
  | ifBody => "'if'"
  | elseBody => "'else'"
  | loopBody => "'loop'"
  | handler event => s!"'on {event}' handler"

/-- The keywords that close a block, as messages list them. -/
def closers : BlockOwner → String
  | ifBody => "'else' or 'end'"
  | _ => "'end'"

/-- The token closes a block. -/
def isClosedBy (owner : BlockOwner) (token : Token) : Bool :=
  token.isKeyword "end" || (owner = ifBody && token.isKeyword "else")

end BlockOwner

/-- What the grammar allows next. -/
inductive Expectation
  | symbol (text : String)
  | expression
  | reference
  | objectKey
  | bindingName (site : BindingSite)
  | assistant
  | optionName
  | toolName
  | arguments (tool : String)
  | loopSource
  | rememberMode
  | statement
  | blockEnd (owner : BlockOwner)
  | bot
  | someBot
  | botName (kind : BotKind)
  | botEnd (owner : String)
  /-- Something else than a keyword stands among the declarations of a bot. -/
  | declaration (owner : String)
  /-- A keyword stands there that declares nothing. -/
  | declarationWord (owner : String)
  | descriptionText
  | memoryScope
  | memoryVariable
  | listedTool
  | toolsEnd
  | event
deriving DecidableEq, Repr

namespace Expectation

/-- What is expected, as messages and hints name it. -/
def label : Expectation → String
  | symbol text => s!"'{text}'"
  | expression => "an expression"
  | reference => "a variable reference"
  | objectKey => "an object key"
  | bindingName _ => "a variable name"
  | assistant => "'ai'"
  | optionName => "an option name"
  | toolName => "a tool name (namespace.verb)"
  | arguments tool => s!"'with' after 'call {tool}'"
  | loopSource => "'in' after the loop variable"
  | rememberMode => "'as' or 'append'"
  | statement => "a statement"
  | blockEnd owner => owner.closers
  | bot | someBot => "'bot' or 'agent'"
  | botName kind => s!"a name after '{kind.word}'"
  | botEnd _ => "'end'"
  | declaration _ | declarationWord _ => "'on', 'memory', 'tools', 'description' or 'end'"
  | descriptionText => "a string after 'description'"
  | memoryScope => "'session' or 'user'"
  | memoryVariable => "'var' or 'end' in memory block"
  | listedTool => "a tool name"
  | toolsEnd => "closing bracket for 'tools'"
  | event => "'input' or an event name"

/-- The first half of the message about an expectation that is not met. -/
def headline : Expectation → String
  | bindingName site => s!"Expected a variable name in {site.text}"
  | assistant => "Expected 'ai' after 'ask'"
  | rememberMode => "Expected 'as' or 'append' after the remember key"
  | blockEnd owner => s!"Expected {owner.closers} to close {owner.text}"
  | bot => "Expected a bot declaration"
  | someBot => "Expected at least one bot declaration"
  | botEnd owner => s!"Expected 'end' to close {owner}"
  | declaration owner => s!"Unexpected token in {owner}"
  | declarationWord owner => s!"Unexpected keyword in {owner}"
  | memoryScope => "Expected memory scope"
  | event => "Expected an event name after 'on'"
  | other => s!"Expected {other.label}"

end Expectation

/-- What is wrong. -/
inductive Problem
  | wanted (expectation : Expectation)
  | chainedComparison
  | duplicateKey (key : String)
  /-- A name with a dot stands where a plain variable is required. -/
  | propertyPath (site : BindingSite)
  | openHole
  | emptyHole
  /-- The text inside a hole is no expression, for the given reason. -/
  | badHole (hole reason : String)
  | trailingInput
  | duplicateBot (name : String)
  | lateDeclaration (word owner : String)
  | duplicateDescription (owner : String)
  | noHandlers (owner : String)
  | duplicateMemoryVariable (name : String)
deriving DecidableEq, Repr

namespace Problem

/-- What would have been right, for problems that know it. -/
def expected? : Problem → Option String
  | wanted expectation => some expectation.label
  | _ => none

def headline : Problem → String
  | wanted expectation => expectation.headline
  | chainedComparison => "Comparisons cannot be chained; combine them with 'and' or 'or'"
  | duplicateKey key => s!"Duplicate key '{key}' in object literal"
  | propertyPath site => s!"Cannot bind a property path in {site.text}; use a plain variable"
  | openHole => "Unterminated '\x7b' in string template"
  | emptyHole => "Empty '\x7b\x7d' in string template; escape literal braces as \\\x7b and \\\x7d"
  | badHole hole reason => "Invalid template hole '\x7b" ++ hole ++ "\x7d': " ++ reason
  | trailingInput => "Unexpected trailing input"
  | duplicateBot name => s!"Duplicate bot name '{name}'"
  | lateDeclaration word owner => s!"'{word}' must appear before the handlers of {owner}"
  | duplicateDescription owner => s!"Duplicate description in {owner}"
  | noHandlers owner => s!"{owner} must declare at least one 'on' handler"
  | duplicateMemoryVariable name => s!"Duplicate memory variable '{name}'"

end Problem

/-- A problem and the token that is blamed for it, none at the end of the text. -/
structure Complaint where
  problem : Problem
  blamed : Option Token
deriving DecidableEq, Repr

namespace Complaint

/-- The token that is blamed, as messages name it. -/
def found (complaint : Complaint) : String :=
  match complaint.blamed with
  | none => "end of input"
  | some token => token.describe

/-- The message; it says what was found when something else was expected. -/
def message (complaint : Complaint) : String :=
  match complaint.problem.expected? with
  | none => complaint.problem.headline
  | some _ => s!"{complaint.problem.headline}, found {complaint.found}"

end Complaint

/-- What ends the reading of tokens. -/
inductive Failure
  | complaint (complaint : Complaint)
  | numeral (numeral : Numeral)
deriving DecidableEq, Repr

/-- What is wrong with a program text. -/
inductive SyntaxError
  | lexical (error : LexError)
  | grammar (complaint : Complaint) (position : Position)
  /-- A numeral without a number is no error of the language; it ends whatever reads the program. -/
  | numeral (numeral : Numeral)
deriving DecidableEq, Repr

namespace SyntaxError

/-- An error in tokens that end at a position. -/
def ofFailure (finish : Position) : Failure → SyntaxError
  | .complaint complaint => grammar complaint ((complaint.blamed.map Token.position).getD finish)
  | .numeral digits => numeral digits

end SyntaxError

/-- An error in a program text as it is reported. -/
structure SyntaxReport where
  kind : ErrorKind
  message : String
  position : Position
  expected : Option String
  found : Option String

namespace SyntaxReport

def place (report : SyntaxReport) : Place :=
  Place.of report.position

/-- The error with its class and its place. -/
def describe (report : SyntaxReport) : String :=
  report.kind.describe report.message report.place

end SyntaxReport

/-- What is reported of an error. A numeral without a number is no error of the language and is not
reported. -/
def SyntaxError.report : SyntaxError → Except Escape SyntaxReport
  | .lexical error => .ok ⟨.lexical, error.problem.message, error.position, none, none⟩
  | .grammar complaint position =>
    .ok ⟨.grammar, complaint.message, position, complaint.problem.expected?, some complaint.found⟩
  | .numeral digits => .error (.numeral digits)

end BotScript
