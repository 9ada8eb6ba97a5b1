import BotScript.Proofs.Host.Turns
import BotScript.Proofs.Run.Reaches

/-! Parts of runs with their turns. What a part reaches says what it asks its host; the turns that
it takes also say how the run stood at each question. -/

namespace BotScript.Run

variable {α β : Type} {before after : RunState} {turns : List (Turn Standing)}

/-- A part may start in one state, take these turns and end with this outcome in the other state. -/
def Takes (part : Run α) (before : RunState) (turns : List (Turn Standing)) (result : Except Stop α)
    (after : RunState) : Prop :=
  (part.narrate before).Path turns (result, after)

/-- What a part reaches in its turns. -/
theorem Takes.reaches {part : Run α} {result : Except Stop α}
    (taken : Takes part before turns result after) :
    Reaches part before (turns.map Turn.exchange) result after :=
  taken.plain

theorem takes_pure {a : α} {result : Except Stop α} :
    Takes (pure a) before turns result after ↔ turns = [] ∧ result = .ok a ∧ after = before := by
  change Narrative.Path (.done (.ok a, before)) turns (result, after) ↔ _
  rw [Narrative.path_done_iff, Prod.mk.injEq]

theorem takes_throw {stop : Stop} {result : Except Stop α} :
    Takes (throw stop) before turns result after ↔
      turns = [] ∧ result = .error stop ∧ after = before := by
  change Narrative.Path (.done (.error stop, before)) turns (result, after) ↔ _
  rw [Narrative.path_done_iff, Prod.mk.injEq]

theorem takes_get {result : Except Stop RunState} :
    Takes get before turns result after ↔ turns = [] ∧ result = .ok before ∧ after = before := by
  change Narrative.Path (.done (.ok before, before)) turns (result, after) ↔ _
  rw [Narrative.path_done_iff, Prod.mk.injEq]

theorem takes_modify {f : RunState → RunState} {result : Except Stop Unit} :
    Takes (modify f) before turns result after ↔
      turns = [] ∧ result = .ok () ∧ after = f before := by
  change Narrative.Path (.done (.ok (), f before)) turns (result, after) ↔ _
  rw [Narrative.path_done_iff, Prod.mk.injEq]

theorem takes_evaluated {value result : Except Stop α} :
    Takes (evaluated value) before turns result after ↔
      turns = [] ∧ result = value ∧ after = before := by
  cases value with
  | ok a => exact takes_pure
  | error stop => exact takes_throw

theorem takes_checked {value : Except Cause α} {result : Except Stop α} :
    Takes (checked value) before turns result after ↔
      turns = [] ∧ result = value.mapError (fun cause => .fault (.of cause)) ∧ after = before := by
  cases value with
  | ok a => exact takes_pure
  | error cause => exact takes_throw

/-- Two parts, one after the other: the second one runs when the first one does not stop. -/
theorem takes_bind {part : Run α} {next : α → Run β} {result : Except Stop β} :
    Takes (part >>= next) before turns result after ↔
      (∃ a front middle back, Takes part before front (.ok a) middle ∧
        Takes (next a) middle back result after ∧
        turns = front ++ back) ∨
      (∃ stop, Takes part before turns (.error stop) after ∧ result = .error stop) := by
  unfold Takes
  rw [narrate_bind, Narrative.path_bind_iff]
  constructor
  · rintro ⟨⟨first, middle⟩, front, back, taken, later, rfl⟩
    cases first with
    | ok a => exact .inl ⟨a, front, middle, back, taken, later, rfl⟩
    | error stop =>
      obtain ⟨rfl, same⟩ := Narrative.path_done_iff.mp later
      obtain ⟨rfl, rfl⟩ := Prod.mk.inj same
      exact .inr ⟨stop, by simpa using taken, rfl⟩
  · rintro (⟨a, front, middle, back, taken, later, rfl⟩ | ⟨stop, taken, rfl⟩)
    · exact ⟨(.ok a, middle), front, back, taken, later, rfl⟩
    · exact ⟨(.error stop, after), turns, [], taken, .done _, by simp⟩

/-- During a question to the host the run stands as it did before. -/
theorem takes_host {dialogue : Dialogue α} {result : Except Stop α} :
    Takes (host dialogue) before turns result after ↔
      ∃ a asked, dialogue.Path asked a ∧ turns = asked.map (Turn.mk ⟨before, []⟩) ∧ result = .ok a ∧
        after = before := by
  unfold Takes
  simp only [narrate_host, Narrative.path_bind_iff, Narrative.path_of_iff, Narrative.path_done_iff,
    Prod.mk.injEq]
  constructor
  · rintro ⟨a, _, _, ⟨asked, path, rfl⟩, ⟨rfl, rfl, rfl⟩, rfl⟩
    exact ⟨a, asked, path, by simp, rfl, rfl⟩
  · rintro ⟨a, asked, path, rfl, rfl, rfl⟩
    exact ⟨a, _, [], ⟨asked, path, rfl⟩, ⟨rfl, rfl, rfl⟩, by simp⟩

theorem takes_hosted {dialogue : Dialogue (Except Fault α)} {result : Except Stop α} :
    Takes (hosted dialogue) before turns result after ↔
      ∃ given asked, dialogue.Path asked given ∧ turns = asked.map (Turn.mk ⟨before, []⟩) ∧
        result = given.mapError Stop.fault ∧ after = before := by
  simp only [hosted, takes_bind, takes_host]
  constructor
  · rintro (⟨given, front, middle, back, ⟨_, asked, path, rfl, same, rfl⟩, later, rfl⟩ |
      ⟨stop, ⟨_, _, _, _, same, _⟩, _⟩)
    · obtain rfl := Except.ok.inj same
      cases given with
      | ok a =>
        obtain ⟨rfl, rfl, rfl⟩ := takes_pure.mp later
        exact ⟨.ok a, asked, path, List.append_nil _, rfl, rfl⟩
      | error fault =>
        obtain ⟨rfl, rfl, rfl⟩ := takes_throw.mp later
        exact ⟨.error fault, asked, path, List.append_nil _, rfl, rfl⟩
    · cases same
  · rintro ⟨given, asked, path, rfl, rfl, rfl⟩
    refine .inl ⟨given, _, after, [], ⟨given, asked, path, rfl, rfl, rfl⟩, ?_,
      (List.append_nil _).symm⟩
    cases given with
    | ok a => exact takes_pure.mpr ⟨rfl, rfl, rfl⟩
    | error fault => exact takes_throw.mpr ⟨rfl, rfl, rfl⟩

theorem takes_env {result : Except Stop Environment} :
    Takes env before turns result after ↔ turns = [] ∧ result = .ok before.env ∧
    after = before := by
  change Narrative.Path (.done (.ok before.env, before)) turns (result, after) ↔ _
  rw [Narrative.path_done_iff, Prod.mk.injEq]

theorem takes_attempt {part : Run α} {result : Except Stop (Except Stop α)} :
    Takes (attempt part) before turns result after ↔
      ∃ kept, Takes part before turns kept after ∧ result = .ok kept := by
  unfold Takes
  simp only [narrate_attempt, Narrative.path_bind_iff, Narrative.path_done_iff, Prod.mk.injEq]
  constructor
  · rintro ⟨⟨kept, state⟩, front, back, path, ⟨rfl, rfl, rfl⟩, rfl⟩
    exact ⟨kept, by simpa using path, rfl⟩
  · rintro ⟨kept, taken, rfl⟩
    exact ⟨(kept, after), turns, [], taken, ⟨rfl, rfl, rfl⟩, by simp⟩

/-- A part inside a loop shows what the loop keeps behind what it keeps itself. -/
theorem takes_inside {saved : Environment.Saved} {part : Run α} {result : Except Stop α} :
    Takes (inside saved part) before turns result after ↔
      ∃ inner, Takes part before inner result after ∧
        turns = inner.map (Turn.within (Standing.inside saved)) :=
  Narrative.path_within_iff

/-! ## The turns behind a first step -/

/-- A first part that asks nothing and stands for a result. -/
private theorem takes_bind_settled {part : Run α} {next : α → Run β} {result : Except Stop β}
    {middle : RunState} {first : Except Stop α}
    (settled : ∀ turns kept state, Takes part before turns kept state ↔ turns = [] ∧ kept = first ∧
      state = middle) :
    Takes (part >>= next) before turns result after ↔
      (∃ a, first = .ok a ∧ Takes (next a) middle turns result after) ∨
      (∃ stop, first = .error stop ∧ turns = [] ∧ result = .error stop ∧ after = middle) := by
  simp only [takes_bind, settled]
  constructor
  · rintro (⟨a, _, _, back, ⟨rfl, same, rfl⟩, later, rfl⟩ | ⟨stop, ⟨rfl, same, rfl⟩, rfl⟩)
    · exact .inl ⟨a, same.symm, by simpa using later⟩
    · exact .inr ⟨stop, same.symm, rfl, rfl, rfl⟩
  · rintro (⟨a, same, later⟩ | ⟨stop, same, rfl, rfl, rfl⟩)
    · exact .inl ⟨a, [], middle, turns, ⟨rfl, same.symm, rfl⟩, later, rfl⟩
    · exact .inr ⟨stop, ⟨rfl, same.symm, rfl⟩, rfl⟩

theorem takes_modify_bind {f : RunState → RunState} {next : PUnit → Run α}
    {result : Except Stop α} :
    Takes (modify f >>= next) before turns result after ↔
      Takes (next ⟨⟩) (f before) turns result after := by
  rw [takes_bind_settled fun _ _ _ => takes_modify]
  constructor
  · rintro (⟨_, _, later⟩ | ⟨_, impossible, _⟩)
    · exact later
    · cases impossible
  · exact fun later => .inl ⟨⟨⟩, rfl, later⟩

theorem takes_get_bind {next : RunState → Run α} {result : Except Stop α} :
    Takes (get >>= next) before turns result after ↔
      Takes (next before) before turns result after := by
  rw [takes_bind_settled fun _ _ _ => takes_get]
  simp

theorem takes_env_bind {next : Environment → Run α} {result : Except Stop α} :
    Takes (env >>= next) before turns result after ↔
      Takes (next before.env) before turns result after := by
  rw [takes_bind_settled fun _ _ _ => takes_env]
  simp

theorem takes_evaluated_bind {value : Except Stop α} {next : α → Run β} {result : Except Stop β} :
    Takes (evaluated value >>= next) before turns result after ↔
      (∃ a, value = .ok a ∧ Takes (next a) before turns result after) ∨
      (∃ stop, value = .error stop ∧ turns = [] ∧ result = .error stop ∧ after = before) :=
  takes_bind_settled fun _ _ _ => takes_evaluated

theorem takes_checked_bind {value : Except Cause α} {next : α → Run β} {result : Except Stop β} :
    Takes (checked value >>= next) before turns result after ↔
      (∃ a, value = .ok a ∧ Takes (next a) before turns result after) ∨
      (∃ cause, value = .error cause ∧ turns = [] ∧ result = .error (.fault (.of cause)) ∧
        after = before) := by
  rw [takes_bind_settled fun _ _ _ => takes_checked]
  cases value <;> simp [mapError_ok, mapError_error]

theorem takes_host_bind {dialogue : Dialogue α} {next : α → Run β} {result : Except Stop β} :
    Takes (host dialogue >>= next) before turns result after ↔
      ∃ a asked back, dialogue.Path asked a ∧ Takes (next a) before back result after ∧
        turns = asked.map (Turn.mk ⟨before, []⟩) ++ back := by
  simp only [takes_bind, takes_host]
  constructor
  · rintro (⟨a, _, _, back, ⟨b, asked, path, rfl, same, rfl⟩, later, rfl⟩ |
      ⟨stop, ⟨_, _, _, _, same, _⟩, _⟩)
    · obtain rfl := Except.ok.inj same
      exact ⟨a, asked, back, path, later, rfl⟩
    · cases same
  · rintro ⟨a, asked, back, path, later, rfl⟩
    exact .inl ⟨a, _, before, back, ⟨a, asked, path, rfl, rfl, rfl⟩, later, rfl⟩

theorem takes_attempt_bind {part : Run α} {next : Except Stop α → Run β} {result : Except Stop β} :
    Takes (attempt part >>= next) before turns result after ↔
      ∃ kept front middle back, Takes part before front kept middle ∧
        Takes (next kept) middle back result after ∧
        turns = front ++ back := by
  simp only [takes_bind, takes_attempt]
  constructor
  · rintro (⟨a, front, middle, back, ⟨kept, taken, same⟩, later, rfl⟩ | ⟨stop, ⟨_, _, same⟩, _⟩)
    · obtain rfl := Except.ok.inj same
      exact ⟨a, front, middle, back, taken, later, rfl⟩
    · cases same
  · rintro ⟨kept, front, middle, back, taken, later, rfl⟩
    exact .inl ⟨kept, front, middle, back, ⟨kept, taken, rfl⟩, later, rfl⟩

/-- A part whose variable has its earlier binding again when it ends: its turns are those of the
part, behind which the binding is kept. -/
theorem takes_restoring {name : String} {part : Run α} {result : Except Stop α} :
    Takes (restoring name part) before turns result after ↔
      ∃ inner middle, Takes part before inner result middle ∧
        turns = inner.map (Turn.within (Standing.inside (before.env.save name))) ∧
        after = { middle with env := middle.env.restore (before.env.save name) } := by
  unfold restoring
  simp only [takes_env_bind, takes_attempt_bind, takes_inside, takes_modify_bind, takes_evaluated]
  constructor
  · rintro ⟨kept, _, middle, _, ⟨inner, taken, rfl⟩, ⟨rfl, rfl, rfl⟩, rfl⟩
    exact ⟨inner, middle, taken, List.append_nil _, rfl⟩
  · rintro ⟨inner, middle, taken, rfl, rfl⟩
    exact ⟨result, _, middle, [], ⟨inner, taken, rfl⟩, ⟨rfl, rfl, rfl⟩, (List.append_nil _).symm⟩

end BotScript.Run
