import BotScript.Metadata
import BotScript.Run.Execute
import BotScript.Service.Body

/-!
What clients ask of the service, and what the bodies of their requests order.
-/

namespace BotScript

/-- A request. `runId` names the run that it starts, if it starts one. -/
structure Request where
  method : String
  address : String
  body : Body
  runId : String

/-- A program text to be looked at. -/
def Body.source (body : Body) : Form String :=
  body.withFields fun fields => text fields "source"

/-- A program text to be checked, and names that count as tools. -/
structure CheckOrder where
  source : String
  toolNames : List String

def CheckOrder.ofBody (body : Body) : Form CheckOrder :=
  body.withFields fun fields =>
    CheckOrder.mk <$> Body.text fields "source" <*>
      (fun names => names.getD []) <$> Body.optional Body.asTexts fields "tool_names"

/-- A program text to be run in a session. -/
structure RunOrder where
  source : String
  /-- An object, a text or nothing. -/
  input : Option Value
  event : String
  session : String
  botId : Option String
  userId : Option String
  botName : Option String
  systemPrompt : Option String
  bindings : List (String × Value)
  timeout : Option Binary64

namespace RunOrder

def ofBody (body : Body) : Form RunOrder :=
  body.withFields fun fields =>
    RunOrder.mk <$> Body.text fields "source"
      <*> Body.optional Body.asInput fields "input"
      <*> Body.textOr fields "event" RunRequest.defaultEvent
      <*> Body.textOr fields "session_id" "default"
      <*> Body.optionalText fields "bot_id"
      <*> Body.optionalText fields "user_id"
      <*> Body.optionalText fields "bot_name"
      <*> Body.optionalText fields "bot_system_prompt"
      <*> Body.objectOr fields "initial_variables" []
      <*> Body.optional Body.asPositive fields "timeout_seconds"

/-- The bot that owns the session variables: the one that is named, or else one that stands for the
session. -/
def owner (order : RunOrder) : String :=
  match order.botId with
  | none => s!"session-{order.session}"
  | some id => if id = "" then s!"session-{order.session}" else id

/-- The facts of the run. -/
def metadata (order : RunOrder) (runId : String) : Metadata :=
  ⟨order.owner, runId, order.userId, order.systemPrompt, order.botName⟩

/-- The settings of the run. -/
def settings (order : RunOrder) (settings : Settings) : Settings :=
  if order.timeout.isSome then { settings with executionTimeout := order.timeout } else settings

end RunOrder

end BotScript
