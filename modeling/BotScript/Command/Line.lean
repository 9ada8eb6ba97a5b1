import BotScript.Command.Argument
import BotScript.Number.Reading

/-!
Command lines: the options of the program, then a command with options of its own.
-/

namespace BotScript

/-- The input of a run as it is given on a command line. -/
inductive InputArgument
  | absent
  /-- The written form of a value. -/
  | written (text : String)
  | message (text : String)
deriving DecidableEq, Repr

/-- A run of the program in a file. `tools` names a list of tools. -/
structure RunCommand where
  file : String
  input : InputArgument
  event : String
  bot : Option String
  tools : Option String
  timeout : Option Binary64
  user : Option String
deriving DecidableEq, Repr

/-- What the program is to do. -/
inductive Command
  /-- Show the tokens of a file. -/
  | tokens (file : String)
  /-- Show the syntax tree of a file. -/
  | parse (file : String)
  | check (file : String) (tools : Option String)
  | run (run : RunCommand)
  /-- Offer the service; `dry` only prepares it. -/
  | serve (host : String) (port : Int) (tools : Option String) (dry : Bool)
deriving DecidableEq, Repr

/-- The file that a command is about. -/
def Command.file? : Command → Option String
  | tokens file | parse file | check file _ => some file
  | run order => some order.file
  | serve .. => none

/-- A command, and the least level of log lines that are shown. -/
structure CommandLine where
  level : String
  command : Command
deriving DecidableEq, Repr

namespace CommandLine

def helpOption : OptionForm := ⟨"--help", .explains (some 'h'), []⟩

/-- An option with a text. -/
def textOption (name : String) : OptionForm := ⟨name, .takes fun _ => true, []⟩

/-- The options in front of the command. -/
def options : List OptionForm :=
  [helpOption, ⟨"--version", .explains none, []⟩, textOption "--log-level"]

def checkOptions : List OptionForm :=
  [helpOption, textOption "--tools"]

def runOptions : List OptionForm := [
  helpOption,
  { textOption "--input" with rivals := ["--message"] },
  { textOption "--message" with rivals := ["--input"] },
  textOption "--event",
  textOption "--bot",
  textOption "--tools",
  ⟨"--timeout", .takes fun s => (Number.readFloat? s.toList).isSome, []⟩,
  textOption "--user-id"]

def serveOptions : List OptionForm := [
  helpOption,
  textOption "--host",
  ⟨"--port", .takes fun s => (Number.readInt s.toList).toBool, []⟩,
  textOption "--tools",
  ⟨"--dry-run", .switches, []⟩]

/-- The input that options give. -/
def inputOf (given : Given) : InputArgument :=
  match Entries.get? given "--message", Entries.get? given "--input" with
  | some text, _ => .message text
  | none, some text => .written text
  | none, none => .absent

def runOf (given : Given) (file : String) : RunCommand where
  file := file
  input := inputOf given
  event := (Entries.get? given "--event").getD "input"
  bot := Entries.get? given "--bot"
  tools := Entries.get? given "--tools"
  timeout := (Entries.get? given "--timeout").bind fun s => Number.readFloat? s.toList
  user := Entries.get? given "--user-id"

def serveOf (given : Given) : Command :=
  .serve ((Entries.get? given "--host").getD "127.0.0.1")
    (((Entries.get? given "--port").bind fun s => (Number.readInt s.toList).toOption).getD 8000)
    (Entries.get? given "--tools")
    (Entries.has given "--dry-run")

/-- The command with a name and arguments. -/
def readCommand (name : String) (args : List String) : Except Halt Command :=
  match name with
  | "tokens" => do return .tokens (← Given.readWith [helpOption] args).2
  | "parse" => do return .parse (← Given.readWith [helpOption] args).2
  | "check" => do
    let (given, file) ← Given.readWith checkOptions args
    return .check file (Entries.get? given "--tools")
  | "run" => do
    let (given, file) ← Given.readWith runOptions args
    return .run (runOf given file)
  | "serve" => do return serveOf (← Given.readAll serveOptions args)
  | _ => .error .misuse

/-- The command line that arguments are. -/
def read (args : List String) : Except Halt CommandLine := do
  if !Given.unambiguous options args then throw .misuse
  match ← Given.readOptions options [] args with
  | (given, name :: rest) =>
    return ⟨(Entries.get? given "--log-level").getD "warning", ← readCommand name rest⟩
  | (_, []) => throw .misuse

end CommandLine

end BotScript
