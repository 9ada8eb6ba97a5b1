import BotScript.Datum.Shown

/-!
What the host says about a run: which bot and user it is for, how it is called, and the instructions
that every prompt carries.
-/

namespace BotScript

/-- The facts of a run. -/
structure Metadata where
  botId : String
  runId : String
  userId : Option String
  systemPrompt : Option String
  botName : Option String

namespace Metadata

/-- The facts of a run that only has an identifier. -/
def anonymous (runId : String) : Metadata :=
  ⟨"local-bot", runId, none, none, none⟩

/-- One fact, under either spelling of its name; unknown names are passed over. -/
def assign (metadata : Metadata) (name text : String) : Metadata :=
  if name = "botId" ∨ name = "bot_id" then { metadata with botId := text }
  else if name = "runId" ∨ name = "run_id" then { metadata with runId := text }
  else if name = "userId" ∨ name = "user_id" then { metadata with userId := some text }
  else if name = "botSystemPrompt" ∨ name = "bot_system_prompt" then
    { metadata with systemPrompt := some text }
  else if name = "botName" ∨ name = "bot_name" then { metadata with botName := some text }
  else metadata

/-- The facts that a host mapping gives, later entries winning. Nulls say nothing and anything else
is taken as text; `runId` names a run that the host gives no name. -/
def ofDatum (runId : String) : Datum → Metadata
  | .mapping entries =>
    entries.foldl (fun metadata entry =>
      match entry with
      | (_, .null) => metadata
      | (.text name, datum) => metadata.assign name datum.shown
      | _ => metadata) (.anonymous runId)
  | _ => .anonymous runId

/-- The facts as data. -/
def data (metadata : Metadata) : Value :=
  .object [
    ("botId", .text metadata.botId),
    ("runId", .text metadata.runId),
    ("userId", .ofText? metadata.userId),
    ("botSystemPrompt", .ofText? metadata.systemPrompt),
    ("botName", .ofText? metadata.botName)]

end Metadata

end BotScript
