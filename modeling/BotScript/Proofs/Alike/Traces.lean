import BotScript.Host.Dialogue
import BotScript.Run.State

/-! What two runs leave behind that are watched side by side. They may differ in the positions that
are named and in the moments that are read from the clock, as far as a slack allows; everything else
is the same. -/

namespace BotScript

/-- How exactly two runs are compared. -/
structure Slack where
  /-- Positions are compared as they are seen through this. -/
  sight : Position → Position
  /-- The moments that may stand for one another. -/
  moments : Moment → Moment → Prop

variable {slack : Slack} {p q : Position}

/-- Two places are the same, or they are positions that look the same. -/
inductive Place.Alike (slack : Slack) : Place → Place → Prop
  | same (place : Place) : Alike slack place place
  | seen {p q : Position} (look : slack.sight p = slack.sight q) : Alike slack (.of p) (.of q)

theorem Place.Alike.orElse {place other : Place} (alike : place.Alike slack other)
    (look : slack.sight p = slack.sight q) : (place.orElse p).Alike slack (other.orElse q) := by
  cases alike with
  | same =>
    unfold Place.orElse
    split
    · exact .seen look
    · exact .same place
  | seen inner => exact .seen inner

/-- One failure, blamed on places that are alike. -/
structure Fault.Alike (slack : Slack) (fault other : Fault) : Prop where
  cause : fault.cause = other.cause
  place : fault.place.Alike slack other.place

theorem Fault.Alike.refl (fault : Fault) : fault.Alike slack fault :=
  ⟨rfl, .same _⟩

theorem Fault.Alike.locate {fault other : Fault} (alike : fault.Alike slack other)
    (look : slack.sight p = slack.sight q) : (fault.locate p).Alike slack (other.locate q) :=
  ⟨alike.cause, alike.place.orElse look⟩

inductive Stop.Alike (slack : Slack) : Stop → Stop → Prop
  | fault {fault other : Fault} (alike : fault.Alike slack other) :
      Alike slack (.fault fault) (.fault other)
  | escape (escape : Escape) : Alike slack (.escape escape) (.escape escape)

theorem Stop.Alike.refl (stop : Stop) : stop.Alike slack stop := by
  cases stop with
  | fault fault => exact .fault (.refl fault)
  | escape escape => exact .escape escape

theorem Stop.Alike.locate {stop other : Stop} (alike : stop.Alike slack other)
    (look : slack.sight p = slack.sight q) : (stop.locate p).Alike slack (other.locate q) := by
  cases alike with
  | fault alike => exact .fault (alike.locate look)
  | escape escape => exact .escape escape

theorem Trouble.locate_alike (trouble : Trouble) (look : slack.sight p = slack.sight q) :
    (trouble.locate p).Alike slack (trouble.locate q) := by
  cases trouble with
  | cause cause => exact .fault ((Fault.Alike.refl (.of cause)).locate look)
  | numeral numeral => exact .refl _

/-- Two parts end alike: with results of a kind, or with one failure. -/
inductive Stop.EndAlike {α β : Type} (slack : Slack) (values : α → β → Prop) :
    Except Stop α → Except Stop β → Prop
  | ok {a : α} {b : β} (same : values a b) : EndAlike slack values (.ok a) (.ok b)
  | error {stop other : Stop} (alike : stop.Alike slack other) :
      EndAlike slack values (.error stop) (.error other)

theorem Stop.EndAlike.refl {α : Type} (result : Except Stop α) :
    EndAlike slack Eq result result := by
  cases result with
  | ok a => exact .ok rfl
  | error stop => exact .error (.refl stop)

theorem Stop.EndAlike.bind {α β γ δ : Type} {values : α → β → Prop} {further : γ → δ → Prop}
    {result : Except Stop α} {other : Except Stop β} {f : α → Except Stop γ} {g : β → Except Stop δ}
    (first : EndAlike slack values result other)
    (second : ∀ a b, values a b → EndAlike slack further (f a) (g b)) :
    EndAlike slack further (result >>= f) (other >>= g) := by
  cases first with
  | ok same => exact second _ _ same
  | error alike => exact .error alike

theorem Stop.EndAlike.locate {α β : Type} {values : α → β → Prop} {result : Except Stop α}
    {other : Except Stop β} (alike : EndAlike slack values result other)
    (look : slack.sight p = slack.sight q) :
    EndAlike slack values (result.mapError (Stop.locate p)) (other.mapError (Stop.locate q)) := by
  cases alike with
  | ok same => exact .ok same
  | error alike => exact .error (alike.locate look)

/-! ## Records -/

/-- Two reports of one failure, which may name different places. -/
inductive ReportAlike (slack : Slack) : String → String → Prop
  | intro (kind : ErrorKind) (message : String) {place other : Place}
      (places : place.Alike slack other) :
    ReportAlike slack (kind.describe message place) (kind.describe message other)

theorem Fault.Alike.describe {fault other : Fault} (alike : fault.Alike slack other) :
    ReportAlike slack fault.describe other.describe := by
  unfold Fault.describe
  rw [alike.cause]
  exact .intro _ _ alike.place

inductive StepOutcome.Alike (slack : Slack) : StepOutcome → StepOutcome → Prop
  | running : Alike slack .running .running
  | ok : Alike slack .ok .ok
  | failed {report other : String} (reports : ReportAlike slack report other) :
    Alike slack (.failed report) (.failed other)
  | cancelled {report other : String} (reports : ReportAlike slack report other) :
    Alike slack (.cancelled report) (.cancelled other)

theorem StepOutcome.ofFault_alike {fault other : Fault} (alike : fault.Alike slack other) :
    (StepOutcome.ofFault fault).Alike slack (StepOutcome.ofFault other) := by
  unfold StepOutcome.ofFault
  rw [← alike.cause]
  split
  · exact .cancelled alike.describe
  · exact .failed alike.describe

/-- How a statement has ended is told alike. -/
theorem Run.outcomeOf_alike {result other : Except Stop Unit}
    (ends : Stop.EndAlike slack Eq result other) (look : slack.sight p = slack.sight q) :
    (Run.outcomeOf p result).Alike slack (Run.outcomeOf q other) := by
  cases ends with
  | ok => exact .ok
  | error alike =>
    cases alike with
    | fault alike => exact StepOutcome.ofFault_alike (alike.locate look)
    | escape => exact .running

/-- Two records of one statement. -/
structure Step.Alike (slack : Slack) (record other : Step) : Prop where
  index : record.index = other.index
  kind : record.kind = other.kind
  line : ∃ p q : Position, record.line = p.line ∧ other.line = q.line ∧
      slack.sight p = slack.sight q
  summary : record.summary = other.summary
  outcome : record.outcome.Alike slack other.outcome

/-! ## Exact sight -/

/-- Positions are seen as they are. -/
def Slack.Sharp (slack : Slack) : Prop :=
  Function.Injective slack.sight

theorem Place.Alike.eq {place other : Place} (sharp : slack.Sharp)
    (alike : place.Alike slack other) :
    place = other := by
  cases alike with
  | same => rfl
  | seen look => rw [sharp look]

theorem ReportAlike.eq {report other : String} (sharp : slack.Sharp)
    (alike : ReportAlike slack report other) :
    report = other := by
  cases alike with
  | intro kind message places => rw [places.eq sharp]

theorem Step.Alike.eq {record other : Step} (sharp : slack.Sharp)
    (alike : record.Alike slack other) :
    record = other := by
  obtain ⟨index, kind, line, summary, outcome⟩ := record
  obtain ⟨index', kind', line', summary', outcome'⟩ := other
  obtain ⟨rfl, rfl, ⟨p, q, lines, lines', look⟩, rfl, outcomes⟩ := alike
  obtain rfl := sharp look
  obtain rfl := lines.trans lines'.symm
  congr 1
  cases outcomes with
  | running | ok => rfl
  | failed reports | cancelled reports => rw [reports.eq sharp]

end BotScript
