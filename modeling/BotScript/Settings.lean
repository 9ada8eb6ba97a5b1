import BotScript.Datum.Basic
import BotScript.Text.Casing

/-!
The settings of the engine and how environment variables give them. A variable that is missing or
makes no sense leaves the default.
-/

namespace BotScript

/-- Environment variables. -/
abbrev Variables := List (String × String)

/-- The settings of the engine. -/
structure Settings where
  /-- Seconds that one call of a tool or of the memory may take. -/
  toolTimeout : Option Binary64
  /-- Seconds that a whole run may take. -/
  executionTimeout : Option Binary64
  requireSingleBot : Bool
  /-- An event without a matching handler gives an empty answer instead of an error. -/
  synthesizeFallback : Bool
  /-- Tools that answer prompts, in order of preference. -/
  assistants : List String
  defaultModel : Option String
  toolLogging : String

namespace Settings

def defaults : Settings where
  toolTimeout := some (.ofInt 15)
  executionTimeout := some (.ofInt 30)
  requireSingleBot := true
  synthesizeFallback := false
  assistants := ["ai.respond", "general.respond"]
  defaultModel := none
  toolLogging := "info"

/-- A positive number of seconds. -/
def seconds (vars : Variables) (name : String) (default : Option Binary64) : Option Binary64 :=
  match Entries.get? vars name with
  | none => default
  | some text =>
    match Number.readFloat? text.toList with
    | none => default
    | some x => if Binary64.zero.lt x then some x else default

/-- The texts that mean yes. -/
def isYes (text : String) : Bool :=
  ["1", "true", "yes", "on"].contains (Text.lower (Text.strip text))

def flag (vars : Variables) (name : String) (default : Bool) : Bool :=
  match Entries.get? vars name with
  | none => default
  | some text => isYes text

/-- The parts of a text between commas, without the blanks around them and without empty ones. -/
def commaSeparated (text : String) : List String :=
  ((text.splitOn ",").map Text.strip).filter (· ≠ "")

def names (vars : Variables) (name : String) (default : List String) : List String :=
  match Entries.get? vars name with
  | none => default
  | some text =>
    match commaSeparated text with
    | [] => default
    | items => items

/-- A text that is not empty. -/
def nonEmpty (vars : Variables) (name : String) : Option String :=
  match Entries.get? vars name with
  | none => none
  | some text => if text = "" then none else some text

/-- The settings that environment variables give. -/
def ofVariables (vars : Variables) : Settings where
  toolTimeout := seconds vars "HIVELANG_TOOL_TIMEOUT_SECONDS" defaults.toolTimeout
  executionTimeout := seconds vars "HIVELANG_EXECUTION_TIMEOUT_SECONDS" defaults.executionTimeout
  requireSingleBot := flag vars "HIVELANG_REQUIRE_SINGLE_BOT" defaults.requireSingleBot
  synthesizeFallback := flag vars "HIVELANG_SYNTHESIZE_FALLBACK" defaults.synthesizeFallback
  assistants := names vars "HIVELANG_AI_TOOLS" defaults.assistants
  defaultModel := nonEmpty vars "HIVELANG_DEFAULT_MODEL"
  toolLogging :=
    Text.lower (Text.strip ((nonEmpty vars "HIVELANG_TOOL_LOGGING").getD defaults.toolLogging))

/-- A limit as data; null is none. -/
def limitData : Option Binary64 → Value
  | none => .null
  | some seconds => .number seconds

/-- The settings as data. -/
def data (settings : Settings) : Value :=
  .object [
    ("tool_timeout_seconds", limitData settings.toolTimeout),
    ("execution_timeout_seconds", limitData settings.executionTimeout),
    ("require_single_bot", .boolean settings.requireSingleBot),
    ("synthesize_fallback", .boolean settings.synthesizeFallback),
    ("ai_tools", .array (settings.assistants.map .text)),
    ("default_model", .ofText? settings.defaultModel),
    ("tool_logging", .text settings.toolLogging)]

/-- The limit that data gives. -/
def limitOf : Datum → Option Binary64
  | .boolean b => some (.ofInt (if b then 1 else 0))
  | .integer n => some (.ofInt n)
  | .number x => some x
  | _ => none

/-- The text that data is. -/
def textOf? : Datum → Option String
  | .text s => some s
  | _ => none

def itemsOf : Datum → List Datum
  | .list items | .tuple items => items
  | _ => []

/-- The settings with one of them replaced; unknown names are passed over. -/
def assign (settings : Settings) (name : String) (datum : Datum) : Settings :=
  match name, datum with
  | "tool_timeout_seconds", _ => { settings with toolTimeout := limitOf datum }
  | "execution_timeout_seconds", _ => { settings with executionTimeout := limitOf datum }
  | "require_single_bot", _ => { settings with requireSingleBot := !datum.isVoid }
  | "synthesize_fallback", _ => { settings with synthesizeFallback := !datum.isVoid }
  | "ai_tools", _ => { settings with assistants := (itemsOf datum).filterMap textOf? }
  | "default_model", _ => { settings with defaultModel := textOf? datum }
  | "tool_logging", _ => { settings with toolLogging := (textOf? datum).getD "" }
  | _, _ => settings

/-- The settings that a host gives as data, under the names that `data` writes; the others have
their defaults. -/
def ofDatum : Datum → Settings
  | .mapping entries =>
    entries.foldl (fun settings entry => settings.assign entry.1.shown entry.2) defaults
  | _ => defaults

end Settings

end BotScript
