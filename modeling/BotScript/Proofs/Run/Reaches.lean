import BotScript.Proofs.Host.Exchange
import BotScript.Run.State

/-! Parts of runs as relations. A part reaches an outcome from a state, asking its host certain
questions on the way; each building block of parts has one rule that says exactly what it
reaches. -/

namespace BotScript.Run

variable {α β : Type} {before after : RunState} {asked : List Exchange}

/-- A part may start in one state, ask these questions and end with this outcome in the other
state. -/
def Reaches (part : Run α) (before : RunState) (asked : List Exchange) (result : Except Stop α)
    (after : RunState) :
    Prop :=
  (part.outcome before).Path asked (result, after)

theorem mapError_ok {δ ε : Type} (f : δ → ε) (a : α) : (Except.ok a).mapError f = .ok a := rfl

theorem mapError_error {δ ε : Type} (f : δ → ε) (failure : δ) :
    (Except.error failure : Except δ α).mapError f = .error (f failure) := rfl

@[simp] theorem reaches_pure {a : α} {result : Except Stop α} :
    Reaches (pure a) before asked result after ↔ asked = [] ∧ result = .ok a ∧ after = before := by
  change Dialogue.Path (.done (.ok a, before)) asked (result, after) ↔ _
  simp

@[simp] theorem reaches_throw {stop : Stop} {result : Except Stop α} :
    Reaches (throw stop) before asked result after ↔
      asked = [] ∧ result = .error stop ∧ after = before := by
  change Dialogue.Path (.done (.error stop, before)) asked (result, after) ↔ _
  simp

@[simp] theorem reaches_get {result : Except Stop RunState} :
    Reaches get before asked result after ↔ asked = [] ∧ result = .ok before ∧ after = before := by
  change Dialogue.Path (.done (.ok before, before)) asked (result, after) ↔ _
  simp

@[simp] theorem reaches_modify {f : RunState → RunState} {result : Except Stop Unit} :
    Reaches (modify f) before asked result after ↔
      asked = [] ∧ result = .ok () ∧ after = f before := by
  change Dialogue.Path (.done (.ok (), f before)) asked (result, after) ↔ _
  simp

theorem narrate_bind (part : Run α) (next : α → Run β) (state : RunState) :
    (part >>= next).narrate state = part.narrate state >>= fun pair =>
      match pair.1 with
      | .ok a => (next a).narrate pair.2
      | .error stop => .done (.error stop, pair.2) := by
  change (part.narrate state >>= _) = _
  congr 1
  funext pair
  obtain ⟨result, middle⟩ := pair
  cases result <;> rfl

theorem narrate_host (dialogue : Dialogue α) (state : RunState) :
    (host dialogue).narrate state = Narrative.of ⟨state, []⟩ dialogue >>=
      fun a => .done (.ok a, state) := by
  change ((Narrative.of (⟨state, []⟩ : Standing) dialogue >>= fun a => .done (a, state))
    >>= fun pair =>
    Narrative.done ((Except.ok pair.1 : Except Stop α), pair.2)) = _
  rw [Narrative.bind_assoc]
  rfl

theorem narrate_attempt (part : Run α) (state : RunState) :
    (attempt part).narrate state = part.narrate state >>= fun pair => .done (.ok pair.1, pair.2) :=
  rfl

theorem outcome_bind (part : Run α) (next : α → Run β) (state : RunState) :
    (part >>= next).outcome state = part.outcome state >>= fun pair =>
      match pair.1 with
      | .ok a => (next a).outcome pair.2
      | .error stop => .done (.error stop, pair.2) := by
  rw [outcome, narrate_bind, Narrative.plain_bind]
  change (part.outcome state >>= _) = _
  congr 1
  funext pair
  obtain ⟨result, middle⟩ := pair
  cases result <;> rfl

/-- Two parts, one after the other: the second one runs when the first one does not stop. -/
theorem reaches_bind {part : Run α} {next : α → Run β} {result : Except Stop β} :
    Reaches (part >>= next) before asked result after ↔
      (∃ a front middle back, Reaches part before front (.ok a) middle ∧
        Reaches (next a) middle back result after ∧
        asked = front ++ back) ∨
      (∃ stop, Reaches part before asked (.error stop) after ∧ result = .error stop) := by
  unfold Reaches
  rw [outcome_bind, Dialogue.path_bind_iff]
  constructor
  · rintro ⟨⟨first, middle⟩, front, back, reached, later, rfl⟩
    cases first with
    | ok a => exact .inl ⟨a, front, middle, back, reached, later, rfl⟩
    | error stop =>
      obtain ⟨rfl, same⟩ := Dialogue.path_done_iff.mp later
      obtain ⟨rfl, rfl⟩ := Prod.mk.inj same
      exact .inr ⟨stop, by simpa using reached, rfl⟩
  · rintro (⟨a, front, middle, back, reached, later, rfl⟩ | ⟨stop, reached, rfl⟩)
    · exact ⟨(.ok a, middle), front, back, reached, later, rfl⟩
    · exact ⟨(.error stop, after), asked, [], reached, .done _, by simp⟩

/-- A first part that asks nothing and stands for a result. -/
private theorem reaches_bind_settled {part : Run α} {next : α → Run β} {result : Except Stop β}
    {middle : RunState} {first : Except Stop α}
    (settled : ∀ asked kept state, Reaches part before asked kept state ↔ asked = [] ∧ kept =
      first ∧ state = middle) :
    Reaches (part >>= next) before asked result after ↔
      (∃ a, first = .ok a ∧ Reaches (next a) middle asked result after) ∨
      (∃ stop, first = .error stop ∧ asked = [] ∧ result = .error stop ∧ after = middle) := by
  simp only [reaches_bind, settled]
  constructor
  · rintro (⟨a, _, _, back, ⟨rfl, same, rfl⟩, later, rfl⟩ | ⟨stop, ⟨rfl, same, rfl⟩, rfl⟩)
    · exact .inl ⟨a, same.symm, by simpa using later⟩
    · exact .inr ⟨stop, same.symm, rfl, rfl, rfl⟩
  · rintro (⟨a, same, later⟩ | ⟨stop, same, rfl, rfl, rfl⟩)
    · exact .inl ⟨a, [], middle, asked, ⟨rfl, same.symm, rfl⟩, later, rfl⟩
    · exact .inr ⟨stop, ⟨rfl, same.symm, rfl⟩, rfl⟩

@[simp] theorem reaches_host {dialogue : Dialogue α} {result : Except Stop α} :
    Reaches (host dialogue) before asked result after ↔
      ∃ a, dialogue.Path asked a ∧ result = .ok a ∧ after = before := by
  rw [Reaches, outcome, narrate_host, Narrative.plain_bind, Narrative.plain_of]
  simp only [Narrative.plain_done, Dialogue.path_bind_iff, Dialogue.path_done_iff, Prod.mk.injEq]
  constructor
  · rintro ⟨a, front, back, path, ⟨rfl, rfl, rfl⟩, rfl⟩
    exact ⟨a, by simpa using path, rfl, rfl⟩
  · rintro ⟨a, path, rfl, rfl⟩
    exact ⟨a, asked, [], path, ⟨rfl, rfl, rfl⟩, by simp⟩

@[simp] theorem reaches_attempt {part : Run α} {result : Except Stop (Except Stop α)} :
    Reaches (attempt part) before asked result after ↔
      ∃ kept, Reaches part before asked kept after ∧ result = .ok kept := by
  rw [Reaches, outcome, narrate_attempt, Narrative.plain_bind]
  simp only [Narrative.plain_done, Dialogue.path_bind_iff, Dialogue.path_done_iff, Prod.mk.injEq]
  constructor
  · rintro ⟨⟨kept, state⟩, front, back, path, ⟨rfl, rfl, rfl⟩, rfl⟩
    exact ⟨kept, by simpa [Reaches, outcome] using path, rfl⟩
  · rintro ⟨kept, reached, rfl⟩
    exact ⟨(kept, after), asked, [], reached, ⟨rfl, rfl, rfl⟩, by simp⟩

/-- What stands around a part changes nothing that it reaches. -/
@[simp] theorem reaches_inside {saved : Environment.Saved} {part : Run α} {result : Except Stop α} :
    Reaches (inside saved part) before asked result after ↔
      Reaches part before asked result after := by
  change Dialogue.Path (Narrative.plain ((part.narrate before).within _)) asked (result, after) ↔ _
  rw [Narrative.plain_within]
  rfl

@[simp] theorem reaches_evaluated {value result : Except Stop α} :
    Reaches (evaluated value) before asked result after ↔
      asked = [] ∧ result = value ∧ after = before := by
  cases value <;> simp [evaluated]

@[simp] theorem reaches_fail {cause : Cause} {result : Except Stop α} :
    Reaches (fail cause) before asked result after ↔
      asked = [] ∧ result = .error (.fault (.of cause)) ∧ after = before := by
  simp [fail]

@[simp] theorem reaches_checked {value : Except Cause α} {result : Except Stop α} :
    Reaches (checked value) before asked result after ↔
      asked = [] ∧ result = value.mapError (fun cause => .fault (.of cause)) ∧ after = before := by
  cases value <;> simp [checked, mapError_ok, mapError_error]

@[simp] theorem reaches_hosted {dialogue : Dialogue (Except Fault α)} {result : Except Stop α} :
    Reaches (hosted dialogue) before asked result after ↔
      ∃ given, dialogue.Path asked given ∧ result = given.mapError Stop.fault ∧ after = before := by
  simp only [hosted, reaches_bind, reaches_host]
  constructor
  · rintro (⟨given, front, middle, back, ⟨_, path, same, rfl⟩, later, rfl⟩ |
      ⟨stop, ⟨_, _, same, _⟩, _⟩)
    · obtain rfl := Except.ok.inj same
      cases given with
      | ok a =>
        obtain ⟨rfl, rfl, rfl⟩ := reaches_pure.mp later
        exact ⟨.ok a, by simpa using path, rfl, rfl⟩
      | error fault =>
        obtain ⟨rfl, rfl, rfl⟩ := reaches_throw.mp later
        exact ⟨.error fault, by simpa using path, rfl, rfl⟩
    · simp at same
  · rintro ⟨given, path, rfl, rfl⟩
    refine .inl ⟨given, asked, after, [], ⟨given, path, rfl, rfl⟩, ?_, by simp⟩
    cases given <;> simp [mapError_ok, mapError_error]

@[simp] theorem reaches_env {result : Except Stop Environment} :
    Reaches env before asked result after ↔ asked = [] ∧ result = .ok before.env ∧
    after = before := by
  simp only [env, reaches_bind, reaches_get, reaches_pure]
  constructor
  · rintro (⟨_, _, _, _, ⟨rfl, same, rfl⟩, ⟨rfl, rfl, rfl⟩, rfl⟩ | ⟨_, ⟨_, same, _⟩, _⟩)
    · obtain rfl := Except.ok.inj same
      exact ⟨rfl, rfl, rfl⟩
    · simp at same
  · rintro ⟨rfl, rfl, rfl⟩
    exact .inl ⟨after, [], after, [], ⟨rfl, rfl, rfl⟩, ⟨rfl, rfl, rfl⟩, rfl⟩

/-! ## What a part reaches behind a first step -/

@[simp] theorem reaches_get_bind {next : RunState → Run α} {result : Except Stop α} :
    Reaches (get >>= next) before asked result after ↔
      Reaches (next before) before asked result after := by
  rw [reaches_bind_settled fun _ _ _ => reaches_get]
  simp

@[simp] theorem reaches_modify_bind {f : RunState → RunState} {next : PUnit → Run α}
    {result : Except Stop α} :
    Reaches (modify f >>= next) before asked result after ↔
      Reaches (next ⟨⟩) (f before) asked result after := by
  rw [reaches_bind_settled fun _ _ _ => reaches_modify]
  constructor
  · rintro (⟨_, _, later⟩ | ⟨_, impossible, _⟩)
    · exact later
    · cases impossible
  · exact fun later => .inl ⟨⟨⟩, rfl, later⟩

@[simp] theorem reaches_env_bind {next : Environment → Run α} {result : Except Stop α} :
    Reaches (env >>= next) before asked result after ↔
      Reaches (next before.env) before asked result after := by
  rw [reaches_bind_settled fun _ _ _ => reaches_env]
  simp

@[simp] theorem reaches_evaluated_bind {value : Except Stop α} {next : α → Run β}
    {result : Except Stop β} :
    Reaches (evaluated value >>= next) before asked result after ↔
      (∃ a, value = .ok a ∧ Reaches (next a) before asked result after) ∨
      (∃ stop, value = .error stop ∧ asked = [] ∧ result = .error stop ∧ after = before) :=
  reaches_bind_settled fun _ _ _ => reaches_evaluated

@[simp] theorem reaches_checked_bind {value : Except Cause α} {next : α → Run β}
    {result : Except Stop β} :
    Reaches (checked value >>= next) before asked result after ↔
      (∃ a, value = .ok a ∧ Reaches (next a) before asked result after) ∨
      (∃ cause, value = .error cause ∧ asked = [] ∧ result = .error (.fault (.of cause)) ∧
        after = before) := by
  rw [reaches_bind_settled fun _ _ _ => reaches_checked]
  cases value <;> simp [mapError_ok, mapError_error]

@[simp] theorem reaches_host_bind {dialogue : Dialogue α} {next : α → Run β}
    {result : Except Stop β} :
    Reaches (host dialogue >>= next) before asked result after ↔
      ∃ a front back, dialogue.Path front a ∧ Reaches (next a) before back result after ∧
        asked = front ++ back := by
  simp only [reaches_bind, reaches_host]
  constructor
  · rintro (⟨a, front, _, back, ⟨_, path, same, rfl⟩, later, rfl⟩ | ⟨stop, ⟨_, _, same, _⟩, _⟩)
    · obtain rfl := Except.ok.inj same
      exact ⟨a, front, back, path, later, rfl⟩
    · simp at same
  · rintro ⟨a, front, back, path, later, rfl⟩
    exact .inl ⟨a, front, before, back, ⟨a, path, rfl, rfl⟩, later, rfl⟩

@[simp] theorem reaches_attempt_bind {part : Run α} {next : Except Stop α → Run β}
    {result : Except Stop β} :
    Reaches (attempt part >>= next) before asked result after ↔
      ∃ kept front middle back, Reaches part before front kept middle ∧
        Reaches (next kept) middle back result after ∧
        asked = front ++ back := by
  simp only [reaches_bind, reaches_attempt]
  constructor
  · rintro (⟨a, front, middle, back, ⟨kept, reached, same⟩, later, rfl⟩ | ⟨stop, ⟨_, _, same⟩, _⟩)
    · obtain rfl := Except.ok.inj same
      exact ⟨a, front, middle, back, reached, later, rfl⟩
    · simp at same
  · rintro ⟨kept, front, middle, back, reached, later, rfl⟩
    exact .inl ⟨kept, front, middle, back, ⟨kept, reached, rfl⟩, later, rfl⟩

end BotScript.Run
