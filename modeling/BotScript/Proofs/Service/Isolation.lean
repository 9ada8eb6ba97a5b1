import BotScript.Host.Scripted
import BotScript.Proofs.Service.Sessions
import Mathlib.Data.List.Dedup

/-! Sessions of the service do not notice each other. As long as there is room for all sessions that
are named, the replies to the requests that name one session are those that they get when all other
requests stay away. -/

namespace BotScript

namespace Service

variable {σ τ : Type}

/-- Requests answered one after the other, each with the state in which it finds the host. -/
def answers (host : Host σ) : Service → List (Request × σ) → List (Request × Except Breakdown Reply)
  | _, [] => []
  | service, (request, world) :: rest =>
    let answered := ((service.respond request).run host world).1
    (request, answered.1) :: answers host answered.2 rest

/-- The replies to the requests that name a session, without the names of runs. -/
def repliesTo (id : String) (answers : List (Request × Except Breakdown Reply)) :
    List (Except Breakdown Reply) :=
  (answers.filter (·.1.session? = some id)).map (·.2.map Reply.unnamed)

theorem repliesTo_cons (id : String) (host : Host σ) (service : Service) (request : Request)
    (world : σ) (rest : List (Request × σ)) :
    repliesTo id (service.answers host ((request, world) :: rest)) =
      if request.session? = some id then
        ((service.respond request).run host world).1.1.map Reply.unnamed ::
          repliesTo id (((service.respond request).run host world).1.2.answers host rest)
      else repliesTo id (((service.respond request).run host world).1.2.answers host rest) := by
  unfold repliesTo
  change (List.filter _ (_ :: _)).map _ = _
  rw [List.filter_cons]
  split <;> rename_i asks
  · rw [if_pos (of_decide_eq_true asks)]
    rfl
  · rw [if_neg (mt decide_eq_true asks)]

/-- A request is sent another time, to a host that is in a state of the same kind. A run gets a new
name. -/
structure Resent (worlds : σ → τ → Prop) (sent : Request × σ) (again : Request × τ) : Prop where
  request : again.1 = { sent.1 with runId := again.1.runId }
  worlds : worlds sent.2 again.2

variable {slack : Slack} {host : Host σ} {host' : Host τ} {worlds : σ → τ → Prop}
  {names : List String}
  {service other after after' : Service} {id : String} {named : Option String}

theorem Alike.step (alike : service.Alike id other) (leaves : Leaves names named service after)
    (leaves' : Leaves names named other after')
    (memory : after'.sessions.find? id = after.sessions.find? id) :
    after.Alike id after' := by
  refine ⟨?_, memory⟩
  rw [leaves'.rest, leaves.rest, alike.rest]

/-- What one service replies to all requests, another one that is the same for one session replies
to those that name it. -/
theorem Alike.repliesTo (sharp : slack.Sharp) (steady : ∀ limit, slack.Steady limit)
    (hosts : host.Alike slack host' worlds) {history : List (Request × σ)}
    {alone : List (Request × τ)} (alike : service.Alike id other)
    (within : service.sessions.Within names) (within' : other.sessions.Within names)
    (listed : ∀ sent ∈ history, ∀ id, sent.1.ordered? = some id → id ∈ names)
    (bytes : ∀ sent ∈ history, Text.Utf8.refusal? sent.1.runId.toList = none)
    (bytes' : ∀ sent ∈ alone, Text.Utf8.refusal? sent.1.runId.toList = none)
    (resent : List.Forall₂ (Resent worlds) (history.filter (·.1.session? = some id)) alone) :
    Service.repliesTo id (service.answers host history) =
      (other.answers host' alone).map (·.2.map Reply.unnamed) := by
  induction history generalizing service other alone with
  | nil =>
    cases resent
    rfl
  | cons sent rest ih =>
    obtain ⟨request, world⟩ := sent
    obtain ⟨ordered, listed⟩ := List.forall_mem_cons.mp listed
    obtain ⟨named, bytes⟩ := List.forall_mem_cons.mp bytes
    have leaves :=
      respond_leaves within ordered (Dialogue.run_path host (service.respond request) world)
    by_cases asks : request.session? = some id
    · rw [List.filter_cons, if_pos (decide_eq_true asks)] at resent
      obtain ⟨⟨again, world'⟩, others, ⟨same, states⟩, later, rfl⟩ :=
        List.forall₂_cons_left_iff.mp resent
      obtain ⟨named', others_named⟩ := List.forall_mem_cons.mp bytes'
      obtain ⟨name, rfl⟩ : ∃ name, again = { request with runId := name } := ⟨_, same⟩
      have ordered' : ∀ id, ({ request with runId := name } : Request).ordered? = some id →
          id ∈ names := ordered
      have leaves' :=
        respond_leaves within' ordered' (Dialogue.run_path host' (other.respond _) world')
      have dialogues := respond_alike sharp steady asks alike within within' ordered named named'
      obtain ⟨replies, memory⟩ := (dialogues.run hosts states).results
      have tail :=
        ih (alike.step leaves leaves' memory) leaves.within leaves'.within listed bytes
          others_named later
      rw [repliesTo_cons, if_pos asks]
      exact congrArg₂ List.cons replies tail
    · rw [List.filter_cons, if_neg (mt of_decide_eq_true asks)] at resent
      have aside : (((service.respond request).run host world).1.2).Alike id other :=
        ⟨by rw [leaves.rest, alike.rest], alike.memory.trans (leaves.others id asks).symm⟩
      rw [repliesTo_cons, if_neg asks]
      exact ih aside leaves.within within' listed bytes bytes' resent

/-- As long as there is room for all sessions that are live or ordered, the replies to the requests
that name one session, apart from the names of runs, are those that the same requests get alone, in
the same order. The clocks may differ as far as all deadlines are decided alike. -/
theorem replies_isolated (sharp : slack.Sharp) (steady : ∀ limit, slack.Steady limit)
    (hosts : host.Alike slack host' worlds) (service : Service)
    (distinct : Entries.Distinct service.sessions.stores) (id : String)
    {history : List (Request × σ)} {alone : List (Request × τ)}
    (room : (service.sessions.ids ++ history.filterMap (·.1.ordered?)).dedup.length ≤
      service.sessions.limit)
    (bytes : ∀ sent ∈ history, Text.Utf8.refusal? sent.1.runId.toList = none)
    (bytes' : ∀ sent ∈ alone, Text.Utf8.refusal? sent.1.runId.toList = none)
    (resent : List.Forall₂ (Resent worlds) (history.filter (·.1.session? = some id)) alone) :
    repliesTo id (service.answers host history) =
      (service.answers host' alone).map (·.2.map Reply.unnamed) := by
  have within : service.sessions.Within
      (service.sessions.ids ++ history.filterMap (·.1.ordered?)).dedup :=
    ⟨distinct, fun live member => List.mem_dedup.mpr (List.mem_append_left _ member), room⟩
  refine Alike.repliesTo sharp steady hosts ⟨rfl, rfl⟩ within within
    (fun sent member ordered wanted => ?_) bytes bytes'
    resent
  exact List.mem_dedup.mpr (List.mem_append_right _ (List.mem_filterMap.mpr ⟨sent, member, wanted⟩))

/-! ## Two sessions that use the same key -/

/-- A service without tools, with room for two sessions. -/
def small : Service where
  offers := []
  settings := .defaults
  redaction := ⟨true, true⟩
  sessions := ⟨2, by decide, []⟩
  metrics := .empty
  timed := false

/-- The order to run, in a session, a program that sets a variable of the user. -/
def mark (session runId : String) : Request where
  method := "POST"
  address := "/api/execute"
  body := .value (.object [
    ("source", .text "bot b memory user var n end on input set n to 1 end end"),
    ("session_id", .text session)])
  runId := runId

/-- Two sessions in turns; one of them is listed, looked at and forgotten in between. -/
def twoSessions : List (Request × World) :=
  [mark "s" "1", mark "t" "2", ⟨"GET", "/api/sessions", .absent, ""⟩, mark "s" "3",
    ⟨"POST", "/api/sessions/t/clear", .absent, ""⟩,
    ⟨"GET", "/api/sessions/s/memory", .absent, ""⟩].map (·, .bare [])

/-- The requests that name one of the two sessions, sent alone. -/
def oneSession : List (Request × World) :=
  (twoSessions.filter (·.1.session? = some "s")).map fun sent =>
  ({ sent.1 with runId := "again" }, sent.2)

theorem twoSessions_isolated :
    (repliesTo "s" (small.answers World.host twoSessions)).length = 3 ∧
    repliesTo "s" (small.answers World.host twoSessions) =
      (small.answers World.host oneSession).map (·.2.map Reply.unnamed) := by
  refine ⟨by decide +kernel, ?_⟩
  have sharp : Slack.Sharp ⟨id, Eq⟩ := Function.injective_id
  refine replies_isolated sharp (fun limit => Slack.steady_of_same limit rfl)
    (World.host.alike_self sharp rfl) small
    List.nodup_nil "s" (by decide +kernel) (by decide +kernel) ?_ ?_
  · intro sent member
    obtain ⟨_, -, rfl⟩ := List.mem_map.mp member
    change Text.Utf8.refusal? "again".toList = none
    decide +kernel
  · exact List.forall₂_map_right_iff.mpr (List.forall₂_same.mpr fun _ _ => ⟨rfl, rfl⟩)

end Service

end BotScript
