import BotScript.Check.Report
import BotScript.Command.File
import BotScript.Command.Line
import BotScript.Command.Tools
import BotScript.Memory.Private
import BotScript.Run.Execute
import BotScript.Syntax.Outline
import BotScript.Text.Casing
import BotScript.Value.Reading
import BotScript.Value.Written

/-!
What commands do. A command reads a file and prints one document; a run has a memory of its own,
which is gone behind it.
-/

namespace BotScript

/-- What commands find around them. -/
structure Surroundings where
  vars : Variables
  readFile : String → Except FileProblem String
  modules : List ToolModule
  runId : String

/-- Mistakes that no command reports in words of its own. -/
inductive Mishap
  | unknownLevel (level : String)
  /-- The type of what stands where a list of tools should. -/
  | notAList (typeName : String)
  | relativeModule (name : String)
  | path (flaw : PathFlaw)
  | escape (escape : Escape)

namespace Mishap

/-- The name of the class of a mistake. -/
def typeName : Mishap → String
  | unknownLevel _ | path .nul => "ValueError"
  | notAList _ | relativeModule _ => "TypeError"
  | path (.noBytes _) => "UnicodeEncodeError"
  | escape mistake => mistake.typeName

def message : Mishap → String
  | unknownLevel level => s!"Unknown level: {Text.quoted level}"
  | notAList typeName => s!"'{typeName}' object is not iterable"
  | relativeModule name =>
    s!"the 'package' argument is required to perform a relative import for {Text.quoted name}"
  | path flaw => flaw.message
  | escape mistake => mistake.message

end Mishap

/-- What comes of a command line. -/
inductive Outcome
  | printed (document : Value) (success : Bool)
  | refused (message : String)
  | halted (halt : Halt)
  | mishap (mishap : Mishap)

/-- A document as it is printed. -/
def Outcome.page (document : Value) : String :=
  document.written .document ++ "\n"

namespace Surroundings

/-- The text of a file. -/
def source (surroundings : Surroundings) (file : String) : Except Outcome String :=
  let path := Path.tidy file
  match Path.flaw? path, surroundings.readFile path with
  | some flaw, _ => .error (.mishap (.path flaw))
  | none, .ok text => .ok (String.ofList (withLineFeeds text.toList))
  | none, .error problem => .error (.refused s!"Cannot read {path}: {problem.describe path}")

/-- The tools that an option names. -/
def toolsAt (surroundings : Surroundings) (target : String) : Except Outcome (List Offer) :=
  let moduleName := String.ofList (target.toList.takeWhile (· ≠ ':'))
  let name := String.ofList (target.toList.drop (moduleName.length + 1))
  if moduleName = "" || name = "" then
    .error (.refused s!"--tools must look like module:attribute, got '{target}'")
  else
    match ToolModule.load surroundings.modules moduleName name with
    | .ok offers => .ok offers
    | .error (.notAList typeName) => .error (.mishap (.notAList typeName))
    | .error (.relative name) => .error (.mishap (.relativeModule name))
    | .error (.unavailable reason) =>
      .error (.refused s!"Could not load tools from '{target}': {reason}")

/-- The tools that an option names; without the option, or without a name in it, there are none. -/
def tools? (surroundings : Surroundings) (target : Option String) :
    Except Outcome (Option (List Offer)) :=
  match target with
  | none | some "" => .ok none
  | some target => (surroundings.toolsAt target).map some

end Surroundings

namespace Token

/-- A token as data. -/
def data (token : Token) : Value :=
  .object [
    ("type", .text token.kind.label),
    ("value", .text token.text),
    ("line", .integer token.position.line),
    ("column", .integer token.position.column)]

end Token

/-- Tokens and the end of their text as data. -/
def TokenStream.data (stream : TokenStream) : Value :=
  .array (stream.tokens.map Token.data ++ [.object [
    ("type", .text TokenKind.endLabel),
    ("value", .null),
    ("line", .integer stream.finish.line),
    ("column", .integer stream.finish.column)]])

namespace Outcome

/-- A text that is refused. -/
def ofSyntaxError (error : SyntaxError) : Outcome :=
  match error.report with
  | .ok report => refused report.describe
  | .error mistake => mishap (.escape mistake)

/-- Either way it is the outcome. -/
def settled : Except Outcome Outcome → Outcome
  | .ok outcome | .error outcome => outcome

end Outcome

namespace Command

def showTokens (source : String) : Outcome :=
  match tokenize source with
  | .ok stream => .printed stream.data true
  | .error error => .ofSyntaxError (.lexical error)

def showTree (source : String) : Outcome :=
  match parseProgram source with
  | .ok program => .printed program.outline.data true
  | .error error => .ofSyntaxError error

def showCheck (source : String) (offers : Option (List Offer)) : Outcome :=
  match checkSource source (offers.map fun offers => offers.flatMap Offer.names) [] with
  | .ok report => .printed report.data report.valid
  | .error mistake => .mishap (.escape mistake)

def showResult : Except Escape RunResult → Outcome
  | .ok result => .printed (result.data true) result.success
  | .error mistake => .mishap (.escape mistake)

/-- The input that an argument is. -/
def inputDatum : InputArgument → Except Outcome Datum
  | .absent => .ok (.mapping [])
  | .message text => .ok (.text text)
  | .written text =>
    match Value.read text with
    | .ok value => .ok (Datum.ofValue value)
    | .error ⟨.tooLong digits, _⟩ => .error (.mishap (.escape (.numeral (.tooLong digits))))
    | .error error => .error (.refused s!"--input is not valid JSON: {error.describe text}")

/-- The settings of a run; a limit of zero seconds is none. -/
def settingsOf (vars : Variables) (timeout : Option Binary64) : Settings :=
  let settings := Settings.ofVariables vars
  match timeout with
  | none => settings
  | some seconds =>
    if seconds.eq .zero then settings else { settings with executionTimeout := some seconds }

/-- The request to the engine that a command is. -/
def runRequest (surroundings : Surroundings) (run : RunCommand) : Except Outcome RunRequest := do
  let source ← surroundings.source run.file
  let input ← inputDatum run.input
  let offers ← surroundings.tools? run.tools
  return {
    source
    input
    event := run.event
    bindings := []
    bot := run.bot
    offers := offers.getD []
    connected := true
    metadata := ⟨Path.stem run.file, surroundings.runId, run.user, none, none⟩
    settings := settingsOf surroundings.vars run.timeout
    redaction := .ofVariables surroundings.vars }

/-- A command, from its start to its outcome. -/
def perform (surroundings : Surroundings) : Command → Dialogue Outcome
  | tokens file => return .settled (showTokens <$> surroundings.source file)
  | parse file => return .settled (showTree <$> surroundings.source file)
  | check file tools => return .settled do
    let source ← surroundings.source file
    return showCheck source (← surroundings.tools? tools)
  | run order =>
    match runRequest surroundings order with
    | .error outcome => return outcome
    | .ok request => do
      let ((result, _), _) ← request.execute.withStore .empty
      return showResult result
  | serve host port tools dry => return .settled do
    let _ ← surroundings.tools? tools
    if dry then
      return .printed
        (.object [("status", .text "ready"), ("host", .text host), ("port", .integer port)]) true
    else return .refused "This program does not listen for requests; use --dry-run"

end Command

namespace CommandLine

/-- The levels of log lines. -/
def levels : List String :=
  ["CRITICAL", "FATAL", "ERROR", "WARN", "WARNING", "INFO", "DEBUG", "NOTSET"]

/-- A command line, from its start to its outcome. -/
def perform (surroundings : Surroundings) (line : CommandLine) : Dialogue Outcome :=
  let level := Text.upper line.level
  if levels.contains level then line.command.perform surroundings
  else return .mishap (.unknownLevel level)

/-- What comes of arguments. -/
def performAll (surroundings : Surroundings) (args : List String) : Dialogue Outcome :=
  match read args with
  | .ok line => line.perform surroundings
  | .error halt => return .halted halt

end CommandLine

end BotScript
