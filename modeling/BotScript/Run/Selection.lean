import BotScript.Evaluation.Expr
import BotScript.Settings
import BotScript.Syntax.Program

/-!
Choosing what answers an event: the bot of a program, and its first handler for the event whose
guard holds.
-/

namespace BotScript

namespace Program

def botNames (program : Program) : List String :=
  program.bots.map Bot.name

/-- The bot that runs: the one that is asked for, or the only one; the first of several only when
the settings allow it. -/
def selectBot (program : Program) (settings : Settings) (name : Option String) : Except Cause Bot :=
  match name with
  | some name =>
    match program.bots.find? (·.name = name) with
    | some bot => .ok bot
    | none => .error (.noSuchBot name program.botNames)
  | none =>
    match program.bots with
    | [bot] => .ok bot
    | bot :: _ =>
      if settings.requireSingleBot then .error (.severalBots program.botNames) else .ok bot
    | [] => .error (.severalBots [])

end Program

namespace Bot

/-- What guards decide, as messages name it. -/
def guardContext (event : String) : String :=
  s!"Guard of 'on {event}'"

/-- The handler answers the event in an environment. -/
def accepts (env : Environment) (event : String) (handler : Handler) : Except Stop Bool :=
  if handler.event ≠ event then .ok false
  else
    match handler.guard with
    | none => .ok true
    | some guard => guard.condition env (guardContext event)

/-- The first handler that answers an event, and its place among all, counted from `index`. Guards
behind it are not looked at. -/
def firstAccepting (env : Environment) (event : String) (index : Nat) :
    List Handler → Except Stop (Option (Nat × Handler))
  | [] => .ok none
  | handler :: rest => do
    if ← accepts env event handler then return some (index, handler)
    else firstAccepting env event (index + 1) rest

/-- The first handler of the bot that answers an event. -/
def selectHandler (bot : Bot) (event : String) (env : Environment) :
    Except Stop (Option (Nat × Handler)) :=
  firstAccepting env event 0 bot.handlers

end Bot

end BotScript
