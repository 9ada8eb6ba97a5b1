import BotScript.Check.Mentions
import BotScript.Syntax.Bot.Reader
import BotScript.Tool.Catalogue

/-!
Checking a program without running it. A text that is no program makes the report invalid;
everything else is a warning: tools that are not there, events that may stay without an answer, and
variables that nothing binds.
-/

namespace BotScript

/-- What a check finds. -/
inductive Finding
  | malformed (report : SyntaxReport)
  | unknownTool (tool : String)
  /-- A tool is called that the bot does not list. -/
  | unlistedTool (tool : String)
  | noFallback (kind : BotKind) (bot event : String)
  | severalBots (count : Nat)
  | unboundRead (name : String)

namespace Finding

def code : Finding → String
  | malformed _ => "HL-0001"
  | unknownTool _ => "HL-1001"
  | unlistedTool _ => "HL-1002"
  | noFallback .. => "HL-1003"
  | severalBots _ => "HL-1004"
  | unboundRead _ => "HL-1005"

def severity : Finding → String
  | malformed _ => "error"
  | _ => "warning"

def message : Finding → String
  | malformed report => s!"{report.kind.name}: {report.message}"
  | unknownTool tool => s!"Tool '{tool}' is not in the tool catalogue"
  | unlistedTool tool => s!"Tool '{tool}' is called but not listed in the 'tools' declaration"
  | noFallback kind bot event => s!"{kind.word} '{bot}' has no unconditional 'on {event}' handler"
  | severalBots count => s!"Program declares {count} bots; only one runs per execution"
  | unboundRead name => s!"Variable '{name}' is read but never set"

/-- What to do about it. -/
def hint : Finding → Option String
  | malformed report => report.expected.map fun expected => s!"Expected {expected}."
  | unlistedTool tool => some s!"Add {tool} to 'tools'."
  | noFallback _ _ event =>
    some s!"Add a final 'on {event}' without 'when' so every input gets a reply."
  | severalBots _ => some "Split each bot into its own source file."
  | unknownTool _ | unboundRead _ => none

end Finding

/-- A finding and the position that it is about. -/
structure Diagnostic where
  finding : Finding
  position : Position

/-- A diagnostic as data. -/
def Diagnostic.data (diagnostic : Diagnostic) : Value :=
  .object [
    ("code", .text diagnostic.finding.code),
    ("severity", .text diagnostic.finding.severity),
    ("message", .text diagnostic.finding.message),
    ("line", .integer diagnostic.position.line),
    ("column", .integer diagnostic.position.column),
    ("hint", .ofText? diagnostic.finding.hint)]

/-- The outcome of a check. -/
structure CheckReport where
  errors : List Diagnostic
  warnings : List Diagnostic

namespace CheckReport

def valid (report : CheckReport) : Bool :=
  report.errors.isEmpty

/-- A report as data. -/
def data (report : CheckReport) : Value :=
  .object [
    ("valid", .boolean report.valid),
    ("errors", .array (report.errors.map Diagnostic.data)),
    ("warnings", .array (report.warnings.map Diagnostic.data))]

end CheckReport

/-- The first place of each name. -/
def firstOfEach : List (String × Position) → List (String × Position)
  | [] => []
  | (name, p) :: rest => (name, p) :: (firstOfEach rest).filter (·.1 ≠ name)

namespace Bot

/-- The events of a bot that may stay without an answer. -/
def fallbackWarnings (bot : Bot) : List Diagnostic :=
  (bot.events.filter fun event => !bot.hasFallback event).map fun event =>
    ⟨.noFallback bot.kind bot.name event, bot.position⟩

/-- What is wrong with the tool that a statement calls. Without a catalogue every tool counts as
there, and a bot that lists no tools may call any. -/
def toolWarnings (bot : Bot) (catalogue : Option (List String)) (stmt : Stmt) : List Diagnostic :=
  match stmt.calledTool? with
  | none => []
  | some tool =>
    (if catalogue.any (!·.contains tool) then [⟨.unknownTool tool, stmt.position⟩] else []) ++
      if !bot.tools.isEmpty && !bot.tools.contains tool then
        [⟨.unlistedTool tool, stmt.position⟩] else []

/-- The variables that a handler reads and nothing binds, each at its first place. -/
def readWarnings (bot : Bot) (seeded : List String) (handler : Handler) : List Diagnostic :=
  let bound := seeded ++ bot.memoryNames ++ handler.boundNames
  (firstOfEach (handler.reads.filter fun read => !bound.contains read.1)).map fun read =>
    ⟨.unboundRead read.1, read.2⟩

/-- The warnings about a bot. -/
def warnings (bot : Bot) (catalogue : Option (List String)) (seeded : List String) :
    List Diagnostic :=
  bot.fallbackWarnings ++ bot.handlers.flatMap fun handler =>
    handler.statements.flatMap (bot.toolWarnings catalogue) ++ bot.readWarnings seeded handler

end Bot

/-- The warning about a program of several bots, at the second one. -/
def Program.countWarnings (program : Program) : List Diagnostic :=
  match program.bots with
  | _ :: second :: _ => [⟨.severalBots program.bots.length, second.position⟩]
  | _ => []

/-- The check of a program. `catalogue` lists the tools that there are, if that is known; `known`
the variables that are bound from the start, beside the input. -/
def Program.check (program : Program) (catalogue : Option (List String)) (known : List String) :
    CheckReport :=
  ⟨[], program.countWarnings ++ program.bots.flatMap (·.warnings catalogue ("input" :: known))⟩

/-- The check of a program text. -/
def checkSource (source : String) (catalogue : Option (List String)) (known : List String) :
    Except Escape CheckReport :=
  match parseProgram source with
  | .ok program => .ok (program.check catalogue known)
  | .error error => error.report.map fun report => ⟨[⟨.malformed report, report.position⟩], []⟩

end BotScript
