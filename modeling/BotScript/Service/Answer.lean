import BotScript.Check.Report
import BotScript.Memory.Private
import BotScript.Memory.Sessions
import BotScript.Report.Metrics
import BotScript.Service.Reply
import BotScript.Service.Request
import BotScript.Service.Route
import BotScript.Syntax.Outline

/-!
The service: requests answered one after the other. Each session has a memory of its own, which the
runs in it share; the metrics count the runs of all sessions.
-/

namespace BotScript

/-- The service between two requests. -/
structure Service where
  offers : List Offer
  settings : Settings
  redaction : Redaction
  sessions : Sessions
  metrics : Metrics
  /-- Answers tell how long things took. -/
  timed : Bool

/-- Metrics as data, with the durations if they are `timed`. -/
def Metrics.data (timed : Bool) (metrics : Metrics) : Value :=
  let duration (name : String) (seconds : Binary64) : List (String × Value) :=
    if timed then [(name, .number seconds)] else []
  .object [
    ("steps", .object (metrics.steps.map fun (kind, m) => (kind, .object (
      ("count", .integer m.count) :: duration "total_duration_seconds" m.total ++
        [("errors", .integer m.errors)])))),
    ("runs", .object (metrics.runs.map fun (bot, m) => (bot, .object (
      [("bot_name", .text bot), ("total_runs", .integer m.total)] ++
        duration "avg_duration_seconds" m.average ++ [("failures", .integer m.failures)])))),
    ("tool_latency",
      if timed then .object (metrics.latencies.map fun (tool, latency) =>
        (tool, .number latency.average))
      else .array (metrics.latencies.map fun (tool, _) => .text tool))]

namespace Service

/-- The version of the service. -/
def version : String := "3.0.0"

/-- The version of the language. -/
def languageVersion : String := "3"

def health : Reply :=
  .ok (.object [
    ("status", .text "ok"),
    ("version", .text version),
    ("language_version", .text languageVersion)])

/-- The tree of a program text. -/
def parse (source : String) : Except Escape Reply :=
  match parseProgram source with
  | .ok program => .ok (.ok (.object [("ast", program.outline.data)]))
  | .error error => error.report.map Reply.badProgram

/-- The check of a program text; the tools of the service and the names in the order count as
tools. -/
def validate (service : Service) (order : CheckOrder) : Except Escape Reply :=
  let names := some (service.offers.flatMap Offer.names ++ order.toolNames)
  (checkSource order.source names []).map fun report => .ok report.data

/-- The request to the engine that an order is. -/
def runRequest (service : Service) (order : RunOrder) (runId : String) : RunRequest where
  source := order.source
  input := (order.input.map Datum.ofValue).getD .null
  event := order.event
  bindings := order.bindings.map fun (name, value) => (name, Datum.ofValue value)
  bot := order.botName
  offers := service.offers
  connected := true
  metadata := order.metadata runId
  settings := order.settings service.settings
  redaction := service.redaction

/-- A run in a session. Its effects on the memory and on the metrics stay even when it gives no
result. -/
def execute (service : Service) (order : RunOrder) (runId : String) :
    Dialogue (Except Escape Reply × Service) := do
  let sessions := service.sessions.visit order.session
  let ((result, journal), store) ←
    (service.runRequest order runId).execute.withStore (sessions.store order.session)
  return (result.map fun result => .ok (result.data service.timed),
    { service with
      sessions := sessions.write order.session store
      metrics := service.metrics.recordAll journal })

/-- The live sessions. -/
def listSessions (service : Service) : Reply :=
  .ok (.object [
    ("sessions", .array (service.sessions.ids.map .text)),
    ("max_sessions", .integer service.sessions.limit)])

/-- The memory of a session; looking at it opens the session. -/
def showMemory (service : Service) (id : String) : Reply × Service :=
  if service.sessions.isLive id then
    let sessions := service.sessions.visit id
    (.ok (.object [("session_id", .text id), ("memory", (sessions.store id).snapshot.toValue)]),
      { service with sessions })
  else (.unknownSession id, service)

/-- A session is forgotten. -/
def clear (service : Service) (id : String) : Reply × Service :=
  if service.sessions.isLive id then
    (.ok (.object [("session_id", .text id), ("cleared", .boolean true)]),
      { service with sessions := service.sessions.drop id })
  else (.unknownSession id, service)

/-- What is done with something read from a body, unless the body has another form. -/
def served {α : Type} (service : Service) (form : Form α)
    (use : α → Dialogue (Except Escape Reply × Service)) :
    Dialogue (Except Escape Reply × Service) :=
  match form with
  | .read a => use a
  | .refused problems => return (.ok (.badBody problems), service)

/-- The answer of a route, and the service behind it. -/
def answer (service : Service) (request : Request) :
    Route → Dialogue (Except Escape Reply × Service)
  | .health => return (.ok health, service)
  | .metrics => return (.ok (.ok (service.metrics.data service.timed)), service)
  | .parse => service.served request.body.source fun source => return (parse source, service)
  | .validate => service.served (CheckOrder.ofBody request.body) fun order =>
    return (service.validate order, service)
  | .execute => service.served (RunOrder.ofBody request.body) fun order =>
    service.execute order request.runId
  | .sessions => return (.ok service.listSessions, service)
  | .sessionMemory id =>
    let (reply, service) := service.showMemory id
    return (.ok reply, service)
  | .clearSession id =>
    let (reply, service) := service.clear id
    return (.ok reply, service)

/-- The answer to a request, and the service behind it. -/
def handle (service : Service) (request : Request) : Dialogue (Except Escape Reply × Service) :=
  match Route.ofAddress? request.address with
  | none => return (.ok .notFound, service)
  | some route =>
    if request.method ≠ route.method then return (.ok .wrongMethod, service)
    else if route.readsBody && request.body matches .unreadable then
      return (.ok .unreadableBody, service)
    else service.answer request route

/-- What a client gets for a request, and the service behind it. -/
def respond (service : Service) (request : Request) :
    Dialogue (Except Breakdown Reply × Service) := do
  match Address.flaw? request.address.toList, request.body with
  | some flaw, _ => return (.error (.address flaw), service)
  | none, .noBytes reason => return (.error (.noBytes reason), service)
  | none, _ =>
    let (result, service) ← service.handle request
    return ((result.mapError Breakdown.escape).bind Reply.sent, service)

end Service

end BotScript
