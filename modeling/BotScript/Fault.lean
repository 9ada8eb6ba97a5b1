import BotScript.Datum.Basic
import BotScript.Syntax.Position
import BotScript.Text.Quoted
import BotScript.Text.Similarity

/-!
What can go wrong while a program runs. A fault is a cause, which holds the facts, and the place it
is blamed on; messages are written from the facts in one function.
-/

namespace BotScript

/-- The classes of errors that results and messages name. -/
inductive ErrorKind
  | general
  | lexical
  | grammar
  | runtime
  | unbound
  | property
  | type
  | unknownTool
  | toolExecution
  | memory
  | timeout
  | cancelled
  | noHandler
  | severalBots
deriving DecidableEq, Repr

namespace ErrorKind

/-- The name of a class of errors in results. -/
def name : ErrorKind → String
  | general => "HiveLangError"
  | lexical => "LexError"
  | grammar => "ParseError"
  | runtime => "RuntimeError"
  | unbound => "UnboundVariableError"
  | property => "PropertyError"
  | type => "TypeError"
  | unknownTool => "UnknownToolError"
  | toolExecution => "ToolExecutionError"
  | memory => "MemoryBridgeError"
  | timeout => "TimeoutError"
  | cancelled => "CancelledError"
  | noHandler => "NoHandlerMatched"
  | severalBots => "MultipleBotsUnsupported"

/-- An error as it is reported: its class, its message and its place. -/
def describe (kind : ErrorKind) (message : String) (place : Place) : String :=
  s!"{kind.name}: {message}{place.suffix}"

end ErrorKind

/-- Where a run stands when a limit or a cancellation is noticed. -/
inductive Phase
  | before (work : String)
  | during (work : String)
  | after (work : String)
  | betweenStatements
  | named (text : String)
deriving DecidableEq, Repr

def Phase.text : Phase → String
  | before work => s!"before {work}"
  | during work => s!"during {work}"
  | after work => s!"after {work}"
  | betweenStatements => "between statements"
  | named text => text

/-- The facts of a failure. -/
inductive Cause
  /-- A variable is read that nothing binds; `bound` lists the variables there are. -/
  | unbound (name : String) (bound : List String)
  | missingField (field : String) (available : List String) (label : String)
  | indexOutOfRange (index : Nat) (label : String) (length : Nat)
  | notAnObject (field label : String) (kind : Kind)
  /-- `contains` with something on the left that holds nothing. -/
  | cannotContain (kind : Kind)
  /-- A boolean is needed; `shown` is the value that stands there. -/
  | notBoolean (context : String) (kind : Kind) (shown : String)
  /-- Host data that is no value. -/
  | unsupported (typeName : String)
  | notIterable (kind : Kind)
  /-- A memory key computed by the program that is neither a text nor a number. -/
  | notAKey (kind : Kind)
  | unknownTool (name : String) (known : List String)
  | noAssistant (tried : List String)
  | malformedResult (tool typeName : String)
  | successNotBoolean (tool : String)
  /-- A tool failed with an error of the host. -/
  | toolRaised (tool typeName text : String)
  /-- A tool reported failure. -/
  | toolFailed (tool output : String)
  | noBackend (method key : String)
  /-- A memory key given by the host that is no text. -/
  | foreignKey (typeName : String)
  | backendFailed (method key typeName text : String)
  | limitExceeded (limit : Binary64) (phase : Phase)
  | callTimedOut (work : String) (limit : Binary64)
  | cancelled (phase : Phase)
  | noSuchBot (name : String) (found : List String)
  | severalBots (names : List String)
  | noHandler (event botKind bot : String)
  /-- Host code raised an error of the language itself. -/
  | reported (kind : ErrorKind) (message : String)
deriving DecidableEq, Repr

namespace Cause

/-- Names separated by commas. -/
def listed (names : List String) : String :=
  ", ".intercalate names

/-- Names separated by commas, or a word that says there are none. -/
def listedOrNone (names : List String) : String :=
  let text := listed names
  if text = "" then "none" else text

/-- Texts in their order. -/
def sortedNames (names : List String) : List String :=
  names.mergeSort fun a b => !Text.before b a

/-- The message about a field that an object does not have. -/
def missingFieldMessage (field : String) (available : List String) (label : String) : String :=
  let opening := s!"I don't know field '{field}' on {label}."
  if available.isEmpty then opening
  else
    let hint :=
      match Text.closest? field available with
      | some name => if name ≠ field then s!" Did you mean {name}?" else ""
      | none => ""
    s!"{opening} Available fields: {listed available}.{hint}"

/-- The message about a variable that nothing binds. -/
def unboundMessage (name : String) (bound : List String) : String :=
  let hint :=
    match Text.closest? name bound with
    | some other => s!" Did you mean {other}?"
    | none => ""
  s!"I don't know what {name} is here. Bind it with 'set ${name} to ...' first.{hint}"

/-- The class of a failure. -/
def kind : Cause → ErrorKind
  | unbound .. => .unbound
  | missingField .. | indexOutOfRange .. | notAnObject .. => .property
  | cannotContain .. | notBoolean .. | unsupported .. | notIterable .. | notAKey .. => .type
  | unknownTool .. | noAssistant .. => .unknownTool
  | malformedResult .. | successNotBoolean .. | toolRaised .. | toolFailed .. => .toolExecution
  | noBackend .. | foreignKey .. | backendFailed .. => .memory
  | limitExceeded .. | callTimedOut .. => .timeout
  | cancelled .. => .cancelled
  | noSuchBot .. => .runtime
  | severalBots .. => .severalBots
  | noHandler .. => .noHandler
  | reported kind _ => kind

/-- The message of a failure, without its place. -/
def message : Cause → String
  | unbound name bound => unboundMessage name bound
  | missingField field available label => missingFieldMessage field available label
  | indexOutOfRange index label length =>
    s!"Index {index} is out of range for {label} (length {length})."
  | notAnObject field label kind =>
    s!"Cannot read '{field}' of {label}: it is {kind.name}, not an object."
  | cannotContain kind =>
    s!"'contains' needs a string, array or object on the left, got {kind.name}"
  | notBoolean context kind shown => s!"{context} must be a boolean, got {kind.name} {shown}"
  | unsupported typeName => s!"Unsupported runtime value of Python type {typeName}"
  | notIterable kind => s!"'loop' needs an array to iterate over, got {kind.name}"
  | notAKey kind => s!"Memory keys must be strings, got {kind.name}"
  | unknownTool name known =>
    s!"Unknown tool '{name}'. Registered tools: {listedOrNone (sortedNames known)}."
  | noAssistant tried => s!"No AI tool is registered for 'ask ai' (tried {listedOrNone tried})"
  | malformedResult tool typeName =>
    s!"Tool '{tool}' returned a malformed result of type {typeName}"
  | successNotBoolean tool => s!"Tool '{tool}' returned a non-boolean 'success'"
  | toolRaised tool typeName text => s!"Tool '{tool}' raised {typeName}: {text}"
  | toolFailed tool output => s!"Tool '{tool}' failed: {output}"
  | noBackend method key => s!"Cannot {method} '{key}': no shared memory backend is configured"
  | foreignKey typeName => s!"Memory keys must be strings, got {typeName}"
  | backendFailed method key typeName text => s!"Memory {method} '{key}' failed: {typeName}: {text}"
  | limitExceeded limit phase => s!"Execution exceeded {limit.briefText}s {phase.text}"
  | callTimedOut work limit => s!"{work} timed out after {limit.briefText}s"
  | cancelled phase => s!"Execution cancelled {phase.text}"
  | noSuchBot name found => s!"No bot named '{name}' in this program (found: {listed found})"
  | severalBots names =>
    s!"Program declares {names.length} bots ({listed names}); exactly one is supported"
  | noHandler event botKind bot =>
    s!"No 'on {event}' handler of {botKind} '{bot}' matched the input"
  | reported _ message => message

/-- The tool that a failure is about, for the classes that name one. -/
def toolName? : Cause → Option String
  | unknownTool name _ => some name
  | noAssistant tried => some (listedOrNone tried)
  | malformedResult tool _ | successNotBoolean tool | toolRaised tool .. |
    toolFailed tool _ => some tool
  | _ => none

/-- What a failing tool said. -/
def toolOutput? : Cause → Option String
  | toolFailed _ output => some output
  | _ => none

/-- Failures that `??` replaces by its right side: an unbound variable or a field that cannot be
read. -/
def isMissing (cause : Cause) : Bool :=
  cause.kind = .unbound || cause.kind = .property

end Cause

/-- A numeral that gives no number: some of its digits have no value, such as superscripts, or there
are too many. -/
inductive Numeral
  | noInteger (text : String)
  | noFraction (text : String)
  | tooLong (digits : Nat)
deriving DecidableEq, Repr

namespace Numeral

/-- A numeral in the place of an integer. -/
def ofFlaw (text : String) : Number.IntegerFlaw → Numeral
  | .malformed => noInteger text
  | .tooLong digits => tooLong digits

/-- The most characters that the message about an integer quotes. -/
def quoteLimit : Nat := 200

def message : Numeral → String
  | noInteger text =>
    "invalid literal for int() with base 10: " ++ String.ofList
      ((Text.quoted text).toList.take quoteLimit)
  | noFraction text => s!"could not convert string to float: {Text.quoted text}"
  | tooLong digits => Number.tooLongMessage digits

end Numeral

/-- What ends an evaluation: a cause that results report, or a numeral without a number, which no
result reports. -/
inductive Trouble
  | cause (cause : Cause)
  | numeral (numeral : Numeral)
deriving DecidableEq, Repr

/-- Mistakes that no result reports; they end whatever they happen in. -/
inductive Escape
  | numeral (numeral : Numeral)
  /-- An object in the list of tools is none. -/
  | notATool (description : String)
  /-- Host data in the place of a value is none. -/
  | unconvertible (obstacle : Datum.Obstacle)
deriving DecidableEq, Repr

namespace Escape

/-- The name of the class of a mistake. -/
def typeName : Escape → String
  | numeral _ => "ValueError"
  | notATool _ => "TypeError"
  | unconvertible obstacle => obstacle.typeName

/-- The text of a mistake. -/
def message : Escape → String
  | numeral n => n.message
  | notATool description =>
    s!"Tool {description} must have a name and a callable run(input, context)"
  | unconvertible obstacle => obstacle.message

end Escape

/-- A failure and the place it is blamed on. -/
structure Fault where
  cause : Cause
  place : Place
deriving DecidableEq, Repr

namespace Fault

/-- A failure that is not blamed on a place yet. -/
def of (cause : Cause) : Fault := ⟨cause, .unknown⟩

/-- A failure is blamed on the innermost place that encloses it. -/
def locate (fault : Fault) (p : Position) : Fault :=
  { fault with place := fault.place.orElse p }

/-- The failure as results report it. -/
def describe (fault : Fault) : String :=
  fault.cause.kind.describe fault.cause.message fault.place

end Fault

/-- What ends a run before its end. -/
inductive Stop
  | fault (fault : Fault)
  | escape (escape : Escape)
deriving DecidableEq, Repr

/-- A failure blamed on an enclosing place, unless a place within is known. -/
def Stop.locate (p : Position) : Stop → Stop
  | fault f => fault (f.locate p)
  | escape e => escape e

/-- What ended an evaluation is blamed on a place. -/
def Trouble.locate (p : Position) : Trouble → Stop
  | cause facts => .fault ((Fault.of facts).locate p)
  | numeral n => .escape (.numeral n)

end BotScript
