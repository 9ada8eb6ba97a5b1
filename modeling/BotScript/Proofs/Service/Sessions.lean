import BotScript.Proofs.Host.Exchange
import BotScript.Proofs.Memory.Sessions
import BotScript.Proofs.Service.Naming
import Mathlib.Tactic.SplitIfs

/-! One request and the sessions. A request leaves all sessions alone but the one that it names; and
what it gets, and what it makes of this one, depends on nothing that other sessions have left in the
service. -/

namespace BotScript

/-! ## The session that a request names -/

/-- The session that the body of an order names. -/
def Body.session? (body : Body) : Option String :=
  match body.withFields (Body.textOr · "session_id" "default") with
  | .read session => some session
  | .refused _ => none

theorem Form.seq_eq_read_iff {α β : Type} {form : Form (α → β)} {more : Form α} {b : β} :
    form <*> more = .read b ↔ ∃ f, form = .read f ∧ ∃ a, more = .read a ∧ f a = b := by
  constructor
  · intro read
    cases form with
    | refused =>
      cases more <;> cases read
    | read f =>
      cases more with
      | refused => cases read
      | read a => exact ⟨f, rfl, a, rfl, Form.read.inj read⟩
  · rintro ⟨f, rfl, a, rfl, rfl⟩
    rfl

theorem Form.map_eq_read_iff {α β : Type} {form : Form α} {f : α → β} {b : β} :
    f <$> form = .read b ↔ ∃ a, form = .read a ∧ f a = b := by
  constructor
  · intro read
    cases form with
    | refused => cases read
    | read a => exact ⟨a, rfl, Form.read.inj read⟩
  · rintro ⟨a, rfl, rfl⟩
    rfl

/-- An order runs in the session that its body names. -/
theorem RunOrder.session?_of_read {body : Body} {order : RunOrder}
    (read : RunOrder.ofBody body = .read order) :
    body.session? = some order.session := by
  have fields {fields : List (String × Value)}
      (form : RunOrder.ofBody (.value (.object fields)) = .read order) :
      Body.textOr fields "session_id" "default" = .read order.session := by
    simp only [ofBody, Body.withFields, Form.seq_eq_read_iff, Form.map_eq_read_iff] at form
    iterate 6 obtain ⟨_, form, _, -, rfl⟩ := form
    obtain ⟨_, form, session, named, rfl⟩ := form
    iterate 2 obtain ⟨_, form, _, -, rfl⟩ := form
    obtain ⟨_, -, rfl⟩ := form
    exact named
  cases body with
  | value value =>
    cases value with
    | object entries =>
      have named := fields read
      unfold Body.session? Body.withFields
      dsimp only
      rw [named]
    | _ => cases read
  | _ => cases read

namespace Request

/-- The session in which a request wants a program text to be run. -/
def ordered? (request : Request) : Option String :=
  match Route.ofAddress? request.address with
  | some .execute => request.body.session?
  | _ => none

/-- The session that a request names, as an order or in its address. -/
def session? (request : Request) : Option String :=
  match Route.ofAddress? request.address with
  | some .execute => request.body.session?
  | some (.sessionMemory id) | some (.clearSession id) => some id
  | _ => none

end Request

namespace Service

variable {names : List String} {service other after : Service} {request : Request}
  {order : RunOrder}
  {runId : String} {outcome : Except Escape Reply} {asked : List Exchange}

/-! ## What a request leaves as it is -/

/-- What is done for one session leaves the others as they are, and there is still room for all. -/
structure Leaves (names : List String) (named : Option String) (service after : Service) :
    Prop where
  rest : after = { service with sessions := after.sessions, metrics := after.metrics }
  within : after.sessions.Within names
  others : ∀ id, named ≠ some id → after.sessions.find? id = service.sessions.find? id

theorem Leaves.refl (within : service.sessions.Within names) (named : Option String) :
    Leaves names named service service :=
  ⟨rfl, within, fun _ _ => rfl⟩

theorem execute_leaves (within : service.sessions.Within names) (listed : order.session ∈ names)
    (path : (service.execute order runId).Path asked (outcome, after)) :
    Leaves names (some order.session) service after := by
  obtain ⟨⟨⟨result, journal⟩, store⟩, front, back, -, ends, -⟩ := Dialogue.path_bind_iff.mp path
  obtain ⟨-, same⟩ := Dialogue.path_pure_iff.mp ends
  obtain ⟨-, rfl⟩ := Prod.mk.inj same
  rw [within.visit_eq listed]
  refine ⟨rfl, (within.opened listed).write listed store, fun id apart => ?_⟩
  have ne : order.session ≠ id := fun same => apart (congrArg some same)
  exact ((Sessions.find?_write _ _ _ _).trans (if_neg ne)).trans
    ((Sessions.find?_opened _ _ _).trans (if_neg ne))

theorem showMemory_leaves (within : service.sessions.Within names) (id : String) :
    Leaves names (some id) service (service.showMemory id).2 := by
  unfold showMemory
  split
  · rename_i live
    have listed : id ∈ names := within.named id ((Entries.get?_isSome_iff _ _).mp live)
    dsimp only
    rw [within.visit_eq listed]
    refine ⟨rfl, within.opened listed, fun other apart => ?_⟩
    exact (Sessions.find?_opened _ _ _).trans (if_neg fun same => apart (congrArg some same))
  · exact .refl within _

theorem clear_leaves (within : service.sessions.Within names) (id : String) :
    Leaves names (some id) service (service.clear id).2 := by
  unfold clear
  split
  · refine ⟨rfl, within.drop id, fun other apart => ?_⟩
    exact (Sessions.find?_drop _ _ _).trans (if_neg fun same => apart (congrArg some same))
  · exact .refl within _

/-- What is read from a body is used, or the service stays as it is. -/
private theorem served_leaves {α : Type} {form : Form α}
    {use : α → Dialogue (Except Escape Reply × Service)} {named : Option String}
    (within : service.sessions.Within names)
    (used : ∀ a, form = .read a → (use a).Path asked (outcome, after) →
      Leaves names named service after)
    (path : (service.served form use).Path asked (outcome, after)) :
    Leaves names named service after := by
  cases form with
  | read a => exact used a rfl path
  | refused problems =>
    obtain ⟨-, same⟩ := Dialogue.path_pure_iff.mp path
    obtain ⟨-, rfl⟩ := Prod.mk.inj same
    exact .refl within named

private theorem stays {named : Option String} (within : service.sessions.Within names)
    {reply : Except Escape Reply}
    (path : (pure (reply, service) : Dialogue (Except Escape Reply × Service)).Path asked
      (outcome, after)) :
    Leaves names named service after := by
  obtain ⟨-, same⟩ := Dialogue.path_pure_iff.mp path
  obtain ⟨-, rfl⟩ := Prod.mk.inj same
  exact .refl within named

theorem answer_leaves {route : Route} (named : Route.ofAddress? request.address = some route)
    (within : service.sessions.Within names)
    (listed : ∀ id, request.ordered? = some id → id ∈ names)
    (path : (service.answer request route).Path asked (outcome, after)) :
    Leaves names request.session? service after := by
  unfold Request.ordered? at listed
  unfold Request.session?
  rw [named] at listed ⊢
  cases route with
  | health | metrics | sessions => exact stays within path
  | parse => exact served_leaves within (fun _ _ => stays within) path
  | validate => exact served_leaves within (fun _ _ => stays within) path
  | execute =>
    refine served_leaves within (fun order read used => ?_) path
    dsimp only at listed ⊢
    rw [RunOrder.session?_of_read read] at listed ⊢
    exact execute_leaves within (listed _ rfl) used
  | sessionMemory id =>
    obtain ⟨-, ends⟩ := Dialogue.path_pure_iff.mp path
    obtain ⟨-, rfl⟩ := Prod.mk.inj ends
    exact showMemory_leaves within id
  | clearSession id =>
    obtain ⟨-, ends⟩ := Dialogue.path_pure_iff.mp path
    obtain ⟨-, rfl⟩ := Prod.mk.inj ends
    exact clear_leaves within id

theorem handle_leaves (within : service.sessions.Within names)
    (listed : ∀ id, request.ordered? = some id → id ∈ names)
    (path : (service.handle request).Path asked (outcome, after)) :
    Leaves names request.session? service after := by
  unfold handle at path
  cases named : Route.ofAddress? request.address with
  | none =>
    rw [named] at path
    exact stays within path
  | some route =>
    rw [named] at path
    dsimp only at path
    split_ifs at path
    · exact stays within path
    · exact stays within path
    · exact answer_leaves named within listed path

/-- A request leaves all sessions but the one that it names as they are. -/
theorem respond_leaves {outcome : Except Breakdown Reply} (within : service.sessions.Within names)
    (listed : ∀ id, request.ordered? = some id → id ∈ names)
    (path : (service.respond request).Path asked (outcome, after)) :
    Leaves names request.session? service after := by
  unfold respond at path
  split at path
  · obtain ⟨-, same⟩ := Dialogue.path_pure_iff.mp path
    obtain ⟨-, rfl⟩ := Prod.mk.inj same
    exact .refl within _
  · obtain ⟨-, same⟩ := Dialogue.path_pure_iff.mp path
    obtain ⟨-, rfl⟩ := Prod.mk.inj same
    exact .refl within _
  · obtain ⟨⟨result, behind⟩, front, back, handled, ends, -⟩ := Dialogue.path_bind_iff.mp path
    obtain ⟨-, same⟩ := Dialogue.path_pure_iff.mp ends
    obtain ⟨-, rfl⟩ := Prod.mk.inj same
    exact handle_leaves within listed handled

/-! ## What the request that names a session gets -/

/-- Two services that are the same for those who ask about one session. -/
structure Alike (id : String) (service other : Service) : Prop where
  rest : other = { service with sessions := other.sessions, metrics := other.metrics }
  memory : other.sessions.find? id = service.sessions.find? id

/-- Two outcomes become the same reply, but for the name of a run. -/
def SameReply (outcome other : Except Escape Reply) : Prop :=
  ((outcome.mapError Breakdown.escape).bind Reply.sent).map Reply.unnamed =
    ((other.mapError Breakdown.escape).bind Reply.sent).map Reply.unnamed

theorem SameReply.of_eq {outcome other : Except Escape Reply} (same : outcome = other) :
    SameReply outcome other :=
  same ▸ rfl

/-- Two answers become the same reply and leave the same memory in a session. -/
def AnswerAlike (id : String) (left right : Except Escape Reply × Service) : Prop :=
  SameReply left.1 right.1 ∧ right.2.sessions.find? id = left.2.sessions.find? id

/-- Two replies are the same, but for the name of a run, and so is the memory behind them in a
session. -/
def ReplyAlike (id : String) (left right : Except Breakdown Reply × Service) : Prop :=
  left.1.map Reply.unnamed = right.1.map Reply.unnamed ∧
    right.2.sessions.find? id = left.2.sessions.find? id

section

variable {slack : Slack} {id name name' : String}

theorem Alike.opened (alike : service.Alike id other) :
    (other.sessions.opened id).find? id = (service.sessions.opened id).find? id := by
  rw [Sessions.find?_opened, Sessions.find?_opened, Sessions.store_eq,
    Sessions.store_eq, alike.memory]

/-- Results that differ only in the names of their runs become the same reply. -/
private theorem sameReply_of_results {first second : RunRequest}
    {result result' : Except Escape RunResult} (timed : Bool) (sharp : slack.Sharp)
    (ends : RunResult.EndAlike slack first second result result')
    (bytes : Text.Utf8.refusal? first.metadata.runId.toList = none)
    (bytes' : Text.Utf8.refusal? second.metadata.runId.toList = none) :
    SameReply (result.map fun result => .ok (result.data timed))
      (result'.map fun result => .ok (result.data timed)) := by
  cases ends with
  | error escape => rfl
  | ok alike named named' =>
    rw [← named] at bytes
    rw [← named'] at bytes'
    rw [alike.eq sharp]
    exact Reply.sent_renamed _ timed bytes bytes'

theorem execute_alike (sharp : slack.Sharp) (steady : ∀ limit, slack.Steady limit)
    (alike : service.Alike order.session other) (within : service.sessions.Within names)
    (within' : other.sessions.Within names) (listed : order.session ∈ names)
    (bytes : Text.Utf8.refusal? name.toList = none)
    (bytes' : Text.Utf8.refusal? name'.toList = none) :
    Dialogue.Alike slack (AnswerAlike order.session) (service.execute order name)
      (other.execute order name') := by
  have stores : (other.sessions.visit order.session).store order.session =
      (service.sessions.visit order.session).store order.session := by
    rw [within.visit_eq listed, within'.visit_eq listed]
    exact congrArg (·.getD .empty) alike.opened
  have requests : RunRequest.Alike slack (service.runRequest order name)
      (other.runRequest order name') := by
    rw [alike.rest]
    exact ⟨.refl _, rfl, steady _⟩
  have timed : other.timed = service.timed := by rw [alike.rest]
  unfold execute
  dsimp only
  rw [stores]
  refine ((RunRequest.execute_alike requests).withStore _).bind ?_
  rintro ⟨⟨result, journal⟩, store⟩ ⟨⟨result', journal'⟩, store'⟩ ⟨ends, same⟩
  refine .done ⟨?_, ?_⟩
  · dsimp only
    rw [timed]
    exact sameReply_of_results service.timed sharp ends bytes bytes'
  · refine (Sessions.find?_write _ _ _ _).trans (Eq.trans ?_ (Sessions.find?_write _ _ _ _).symm)
    rw [if_pos rfl, if_pos rfl]
    exact congrArg some same.symm

theorem showMemory_alike (alike : service.Alike id other) (within : service.sessions.Within names)
    (within' : other.sessions.Within names) :
    (other.showMemory id).1 = (service.showMemory id).1 ∧
      (other.showMemory id).2.sessions.find? id = (service.showMemory id).2.sessions.find? id := by
  have lives : other.sessions.isLive id = service.sessions.isLive id :=
    congrArg Option.isSome alike.memory
  unfold showMemory
  rw [lives]
  split
  · rename_i live
    have listed : id ∈ names := within.named id ((Entries.get?_isSome_iff _ _).mp live)
    rw [within.visit_eq listed, within'.visit_eq listed]
    dsimp only
    rw [Sessions.store_eq, Sessions.store_eq, alike.opened]
    exact ⟨rfl, rfl⟩
  · exact ⟨rfl, alike.memory⟩

theorem clear_alike (alike : service.Alike id other) :
    (other.clear id).1 = (service.clear id).1 ∧
      (other.clear id).2.sessions.find? id = (service.clear id).2.sessions.find? id := by
  have lives : other.sessions.isLive id = service.sessions.isLive id :=
    congrArg Option.isSome alike.memory
  unfold clear
  rw [lives]
  split
  · refine ⟨rfl, (Sessions.find?_drop _ _ _).trans (Eq.trans ?_ (Sessions.find?_drop _ _ _).symm)⟩
    rw [if_pos rfl, if_pos rfl]
  · exact ⟨rfl, alike.memory⟩

theorem answer_alike (sharp : slack.Sharp) (steady : ∀ limit, slack.Steady limit) {route : Route}
    (named : Route.ofAddress? request.address = some route) (asks : request.session? = some id)
    (alike : service.Alike id other) (within : service.sessions.Within names)
    (within' : other.sessions.Within names) (listed : ∀ id, request.ordered? = some id → id ∈ names)
    (bytes : Text.Utf8.refusal? request.runId.toList = none)
    (bytes' : Text.Utf8.refusal? name'.toList = none) :
    Dialogue.Alike slack (AnswerAlike id) (service.answer request route)
      (other.answer { request with runId := name' } route) := by
  unfold Request.ordered? at listed
  unfold Request.session? at asks
  rw [named] at listed asks
  cases route with
  | health | metrics | parse | validate | sessions => cases asks
  | execute =>
    dsimp only at listed asks
    unfold answer
    dsimp only
    cases form : RunOrder.ofBody request.body with
    | refused problems => exact .done ⟨rfl, alike.memory⟩
    | read order =>
      rw [RunOrder.session?_of_read form] at listed asks
      obtain rfl := Option.some.inj asks
      exact execute_alike sharp steady alike within within' (listed _ rfl) bytes bytes'
  | sessionMemory shown =>
    obtain rfl := Option.some.inj asks
    obtain ⟨replies, memories⟩ := showMemory_alike alike within within'
    exact .done ⟨.of_eq (congrArg Except.ok replies.symm), memories⟩
  | clearSession cleared =>
    obtain rfl := Option.some.inj asks
    obtain ⟨replies, memories⟩ := clear_alike alike
    exact .done ⟨.of_eq (congrArg Except.ok replies.symm), memories⟩

theorem handle_alike (sharp : slack.Sharp) (steady : ∀ limit, slack.Steady limit)
    (asks : request.session? = some id) (alike : service.Alike id other)
    (within : service.sessions.Within names) (within' : other.sessions.Within names)
    (listed : ∀ id, request.ordered? = some id → id ∈ names)
    (bytes : Text.Utf8.refusal? request.runId.toList = none)
    (bytes' : Text.Utf8.refusal? name'.toList = none) :
    Dialogue.Alike slack (AnswerAlike id) (service.handle request)
      (other.handle { request with runId := name' }) := by
  unfold handle
  cases named : Route.ofAddress? request.address with
  | none => exact .done ⟨rfl, alike.memory⟩
  | some route =>
    dsimp only
    split_ifs
    · exact .done ⟨rfl, alike.memory⟩
    · exact .done ⟨rfl, alike.memory⟩
    · exact answer_alike sharp steady named asks alike within within' listed bytes bytes'

/-- A request that names a session gets the same reply from services that are the same for this
session. -/
theorem respond_alike (sharp : slack.Sharp) (steady : ∀ limit, slack.Steady limit)
    (asks : request.session? = some id) (alike : service.Alike id other)
    (within : service.sessions.Within names) (within' : other.sessions.Within names)
    (listed : ∀ id, request.ordered? = some id → id ∈ names)
    (bytes : Text.Utf8.refusal? request.runId.toList = none)
    (bytes' : Text.Utf8.refusal? name'.toList = none) :
    Dialogue.Alike slack (ReplyAlike id) (service.respond request)
      (other.respond { request with runId := name' }) := by
  unfold respond
  dsimp only
  split
  · exact .done ⟨rfl, alike.memory⟩
  · exact .done ⟨rfl, alike.memory⟩
  · exact (handle_alike sharp steady asks alike within within' listed bytes bytes').bind
      fun _ _ answers => .done answers

end

end Service

end BotScript
