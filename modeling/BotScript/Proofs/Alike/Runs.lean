import BotScript.Proofs.Alike.Limits
import BotScript.Proofs.Run.Reaches
import Mathlib.Data.List.Forall2

/-! Parts of runs that go alike. From states that are alike they have conversations that go alike,
and they come to states that are alike again; each building block of parts has one rule. What is
told in the journal does not count. -/

namespace BotScript

variable {slack : Slack}

/-- Two states of runs: they show the same, except for the places that records name. -/
structure RunState.Alike (slack : Slack) (state other : RunState) : Prop where
  env : state.env = other.env
  output : state.output = other.output
  steps : List.Forall₂ (Step.Alike slack) state.steps other.steps
  transcript : state.transcript = other.transcript
  bot : state.bot = other.bot
  handler : state.handler = other.handler

/-- What two runs are fixed to: they decide alike at all times. -/
structure Setup.Alike (slack : Slack) (setup other : Setup) : Prop where
  settings : setup.settings = other.settings
  redaction : setup.redaction = other.redaction
  systemPrompt : setup.metadata.systemPrompt = other.metadata.systemPrompt
  catalogue : setup.catalogue = other.catalogue
  slots : setup.slots = other.slots
  paced : slack.Paced setup.deadline other.deadline
  connected : setup.connected = other.connected

theorem Setup.Alike.memory {setup other : Setup} (alike : setup.Alike slack other) :
    setup.memory.Alike slack other.memory :=
  ⟨alike.connected, congrArg Settings.toolTimeout alike.settings, alike.paced⟩

namespace Run

open Dialogue Stop

variable {α β γ δ : Type} {values : α → β → Prop} {further : γ → δ → Prop} {p q : Position}

/-- Two parts of runs go alike and end with results that belong together, or with one failure. -/
def Alike (slack : Slack) (values : α → β → Prop) (part : Run α) (other : Run β) : Prop :=
  ∀ state state' : RunState, state.Alike slack state' →
    Dialogue.Alike slack (fun left right => EndAlike slack values left.1 right.1 ∧
      left.2.Alike slack right.2)
      (part.outcome state) (other.outcome state')

namespace Alike

theorem pure {a : α} {b : β} (same : values a b) :
    Alike slack values (Pure.pure a : Run α) (Pure.pure b : Run β) :=
  fun _ _ states => .done ⟨.ok same, states⟩

theorem throw {stop other : Stop} (stops : stop.Alike slack other) :
    Alike slack values (MonadExcept.throw stop : Run α) (MonadExcept.throw other : Run β) :=
  fun _ _ states => .done ⟨.error stops, states⟩

theorem bind {part : Run α} {other : Run β} {next : α → Run γ} {next' : β → Run δ}
    (first : Alike slack values part other)
    (second : ∀ a b, values a b → Alike slack further (next a) (next' b)) :
    Alike slack further (part >>= next) (other >>= next') := by
  intro state state' states
  rw [outcome_bind, outcome_bind]
  refine (first state state' states).bind ?_
  rintro ⟨result, middle⟩ ⟨result', middle'⟩ ⟨ends, middles⟩
  cases ends with
  | ok same => exact second _ _ same middle middle' middles
  | error stops => exact .done ⟨.error stops, middles⟩

/-- A part behind one whose results are equal. -/
theorem andThen {part other : Run α} {next : α → Run γ} {next' : α → Run δ}
    (first : Alike slack Eq part other) (second : ∀ a, Alike slack further (next a) (next' a)) :
    Alike slack further (part >>= next) (other >>= next') :=
  first.bind fun a _ same => same ▸ second a

theorem modify {f f' : RunState → RunState}
    (keeps : ∀ state state' : RunState, state.Alike slack state' →
      (f state).Alike slack (f' state')) :
    Alike slack Eq (modify f : Run Unit) (modify f' : Run Unit) :=
  fun state state' states => .done ⟨.ok rfl, keeps state state' states⟩

theorem get : Alike slack (RunState.Alike slack) (get : Run RunState) (get : Run RunState) :=
  fun _ _ states => .done ⟨.ok states, states⟩

theorem env : Alike slack Eq Run.env Run.env :=
  fun _ _ states => .done ⟨.ok states.env, states⟩

theorem evaluated {value : Except Stop α} {value' : Except Stop β}
    (ends : EndAlike slack values value value') :
    Alike slack values (Run.evaluated value) (Run.evaluated value') := by
  cases ends with
  | ok same => exact .pure same
  | error stops => exact .throw stops

theorem checked (value : Except Cause α) :
    Alike slack Eq (Run.checked value) (Run.checked value) := by
  cases value with
  | ok a => exact .pure rfl
  | error cause => exact .throw (.refl _)

private theorem outcome_host (dialogue : Dialogue α) (state : RunState) :
    (Run.host dialogue).outcome state = dialogue >>= fun a => .done (.ok a, state) := by
  rw [outcome, narrate_host, Narrative.plain_bind, Narrative.plain_of]
  rfl

theorem host {dialogue : Dialogue α} {other : Dialogue β}
    (alike : Dialogue.Alike slack values dialogue other) :
    Alike slack values (Run.host dialogue) (Run.host other) := by
  intro state state' states
  rw [outcome_host, outcome_host]
  exact alike.bind fun a b same => .done ⟨.ok same, states⟩

/-- The clock is read. -/
theorem observed :
    Alike slack slack.moments (Run.host (Dialogue.query .observe))
      (Run.host (Dialogue.query .observe)) :=
  host (.observe fun _ _ moments => .done moments)

theorem hosted {dialogue other : Dialogue (Except Fault α)}
    (alike : Dialogue.Alike slack Eq dialogue other) :
    Alike slack Eq (Run.hosted dialogue) (Run.hosted other) := by
  refine (host alike).andThen fun given => ?_
  cases given with
  | ok a => exact .pure rfl
  | error fault => exact .throw (.refl _)

theorem attempt {part : Run α} {other : Run β} (alike : Alike slack values part other) :
    Alike slack (EndAlike slack values) (Run.attempt part) (Run.attempt other) := by
  intro state state' states
  change Dialogue.Alike slack _ ((Run.attempt part).narrate state).plain
    ((Run.attempt other).narrate state').plain
  rw [narrate_attempt, narrate_attempt, Narrative.plain_bind, Narrative.plain_bind]
  exact (alike state state' states).bind fun left right ends => .done ⟨.ok ends.1, ends.2⟩

theorem inside {part other : Run α} (alike : Alike slack Eq part other)
    (saved : Environment.Saved) :
    Alike slack Eq (Run.inside saved part) (Run.inside saved other) := by
  intro state state' states
  change Dialogue.Alike slack _ (Narrative.plain ((part.narrate state).within _))
    (Narrative.plain ((other.narrate state').within _))
  rw [Narrative.plain_within, Narrative.plain_within]
  exact alike state state' states

theorem restoring {part other : Run Unit} (alike : Alike slack Eq part other) (name : String) :
    Alike slack Eq (Run.restoring name part) (Run.restoring name other) := by
  refine env.andThen fun env => ((alike.inside _).attempt).bind fun result result' ends => ?_
  refine (modify fun state state' states => ?_).andThen fun _ => evaluated ends
  exact { states with env := by rw [states.env] }

theorem forEach {items : List α} {part other : α → Run Unit}
    (each : ∀ item, Alike slack Eq (part item) (other item)) :
    Alike slack Eq (Run.forEach part items) (Run.forEach other items) := by
  induction items with
  | nil => exact .pure rfl
  | cons item rest ih => exact (each item).andThen fun _ => ih

theorem bound (name : String) (value : Value) :
    Alike slack Eq (Run.bind name value) (Run.bind name value) :=
  modify fun _ _ states => { states with env := by rw [states.env] }

/-- What is told may differ. -/
theorem tell (event other : Event) : Alike slack Eq (Run.tell event) (Run.tell other) :=
  modify fun _ _ states => { states with }

theorem say (text : String) : Alike slack Eq (Run.say text) (Run.say text) :=
  modify fun _ _ states =>
    { states with
      output := by rw [states.output]
      transcript := by rw [states.transcript] }

theorem noteCall (tool : String) (args : List (String × Value)) :
    Alike slack Eq (Run.noteCall tool args) (Run.noteCall tool args) :=
  modify fun _ _ states => { states with transcript := by rw [states.transcript] }

end Alike

/-! ## Records -/

private theorem modify_alike {records others : List Step} {f f' : Step → Step}
    (alike : List.Forall₂ (Step.Alike slack) records others)
    (keeps : ∀ record other : Step, record.Alike slack other → (f record).Alike slack (f' other))
    (index : Nat) :
    List.Forall₂ (Step.Alike slack) (records.modify index f) (others.modify index f') := by
  induction alike generalizing index with
  | nil => cases index <;> exact .nil
  | cons first rest ih =>
    cases index with
    | zero => exact .cons (keeps _ _ first) rest
    | succ index => exact .cons first (ih index)

theorem checkpoint_alike {deadline other : Option Deadline} (paced : slack.Paced deadline other) :
    Alike slack Eq (checkpoint deadline) (checkpoint other) := by
  refine Alike.observed.bind fun moment moment' moments => ?_
  rw [paced.check _ _ moments]
  exact .checked _

theorem begin_alike (kind : StepKind) (look : slack.sight p = slack.sight q) :
    Alike slack Eq (begin kind p) (begin kind q) := by
  intro state state' states
  have length := states.steps.length_eq
  refine .done ⟨.ok length, { states with steps := ?_ }⟩
  exact List.rel_append states.steps
    (.cons ⟨length, rfl, ⟨p, q, rfl, rfl, look⟩, rfl, .running⟩ .nil)

theorem summarize_alike (index : Nat) (summary : List (String × Value)) :
    Alike slack Eq (summarize index summary) (summarize index summary) := by
  refine .modify fun _ _ states =>
    { states with steps := modify_alike states.steps (fun _ _ records => ?_) index }
  exact ⟨records.index, records.kind, records.line, rfl, records.outcome⟩

private theorem getElem?_alike {records others : List Step}
    (alike : List.Forall₂ (Step.Alike slack) records others) (index : Nat) :
    (records[index]? = none ∧ others[index]? = none) ∨
      ∃ record other, records[index]? = some record ∧ others[index]? = some other ∧
        record.Alike slack other := by
  induction alike generalizing index with
  | nil => exact .inl ⟨rfl, rfl⟩
  | cons first rest ih =>
    cases index with
    | zero => exact .inr ⟨_, _, rfl, rfl, first⟩
    | succ index => exact ih index

theorem finish_alike (index : Nat) {outcome other : StepOutcome}
    (outcomes : outcome.Alike slack other) :
    Alike slack Eq (finish index outcome) (finish index other) := by
  refine (Alike.modify fun state state' states => ?_).andThen fun _ =>
    Alike.get.bind fun state state' states => ?_
  · refine { states with steps := modify_alike states.steps (fun _ _ records => ?_) index }
    exact ⟨records.index, records.kind, records.line, records.summary, outcomes⟩
  · rcases getElem?_alike states.steps index with ⟨absent, absent'⟩ |
      ⟨record, record', found, found', records⟩
    · rw [absent, absent']
      exact .pure rfl
    · rw [found, found']
      have hears : Alike slack (fun _ _ => True) (Run.host (Dialogue.query (.stepEnded record)))
          (Run.host (Dialogue.query (.stepEnded record'))) :=
            .host (.stepEnded records fun _ _ => .done trivial)
      refine (Alike.tell _ _).andThen fun _ => hears.bind fun told told' _ => ?_
      -- A listener that raises an error is only told of in the journal.
      cases told <;> cases told'
      · exact .tell _ _
      · exact fun _ _ states => .done ⟨.ok rfl, { states with }⟩
      · exact fun _ _ states => .done ⟨.ok rfl, { states with }⟩
      · exact .pure rfl

/-- A statement with its record. -/
theorem recorded_alike {deadline other : Option Deadline} (paced : slack.Paced deadline other)
    (kind : StepKind) (look : slack.sight p = slack.sight q) {statement statement' : Nat → Run Unit}
    (alike : ∀ index, Alike slack Eq (statement index) (statement' index)) :
    Alike slack Eq (recorded deadline kind p statement) (recorded other kind q statement') := by
  refine (checkpoint_alike paced).andThen fun _ => (begin_alike kind look).andThen fun index => ?_
  refine (alike index).attempt.bind fun result result' ends => ?_
  exact (finish_alike index (outcomeOf_alike ends look)).andThen fun _ =>
    .evaluated (ends.locate look)

end Run

end BotScript
