import BotScript.Command.Perform
import BotScript.Host.Scripted
import BotScript.Service.Answer

/-!
The program: it gathers what a command line finds around it, lets the command be performed and
prints what comes of it. It has no tools of its own and does not listen for requests.
-/

namespace BotScript.Terminal

/-- The environment variables that settings and redaction look at. -/
def variableNames : List String := [
  "HIVELANG_TOOL_TIMEOUT_SECONDS", "HIVELANG_EXECUTION_TIMEOUT_SECONDS",
  "HIVELANG_REQUIRE_SINGLE_BOT", "HIVELANG_SYNTHESIZE_FALLBACK", "HIVELANG_AI_TOOLS",
  "HIVELANG_DEFAULT_MODEL", "HIVELANG_TOOL_LOGGING", "HIVELANG_LOG_REDACT_PROMPTS",
  "HIVELANG_LOG_REDACT_METADATA"]

/-- How the program is used. -/
def usage : String :=
  "usage: [--log-level LEVEL] (tokens FILE | parse FILE | check FILE | run FILE | serve) [OPTIONS]"

/-- The variables that are set. -/
def readVariables : IO Variables :=
  variableNames.filterMapM fun name => do return (← IO.getEnv name).map fun text => (name, text)

/-- The text of a file. -/
def readFile (path : String) : IO (Except FileProblem String) := do
  try
    return .ok (← IO.FS.readFile path)
  catch
    | .inappropriateType .. => return .error .isDirectory
    | _ => return .error .notFound

/-- The file that arguments name, empty when they name none. -/
def fileOf (args : List String) : String :=
  match CommandLine.read args with
  | .ok line => (line.command.file?).getD ""
  | .error _ => ""

/-- What comes of arguments. -/
def outcomeOf (args : List String) : IO Outcome := do
  let vars ← readVariables
  let text ← readFile (Path.tidy (fileOf args))
  let number ← IO.rand 0 0x3fffffffffffffff
  let surroundings : Surroundings :=
    ⟨vars, fun _ => text, [], String.ofList (Text.hexDigits 32 number)⟩
  return ((CommandLine.performAll surroundings args).run World.host (.bare [])).1

/-- An outcome is printed and becomes the exit code. -/
def report : Outcome → IO UInt32
  | .printed document success => do
    IO.print (Outcome.page document)
    return if success then 0 else 1
  | .refused message => do
    IO.eprintln message
    return 1
  | .halted .misuse => do
    IO.eprintln usage
    return 2
  | .halted (.explained option) => do
    IO.println (if option = "--version" then Service.version else usage)
    return 0
  | .mishap mishap => do
    IO.eprintln mishap.message
    return 1

end BotScript.Terminal

def main (args : List String) : IO UInt32 := do
  BotScript.Terminal.report (← BotScript.Terminal.outcomeOf args)
