import BotScript.Proofs.Host.Limits
import BotScript.Proofs.Run.Reaches
import BotScript.Proofs.Run.Trail
import BotScript.Run.Statement

/-! What a record says about the deeds of its statement. A say leaves one entry in the transcript, a
call or a prompt one entry and one run of a tool, a memory statement one call of the memory, and
each of them names what the summary names. A statement that did not end well did at most as much. -/

namespace BotScript

/-- The text of an entry that tells what was said. -/
def Utterance.spoken? : Utterance → Option String
  | said text => some text
  | called .. => none

namespace Step

variable (record : Step)

/-- Statements of this kind leave an entry in the transcript. -/
def speaks : Bool :=
  record.kind = .say || record.kind = .ask || record.kind = .call

/-- Statements of this kind run a tool. -/
def runsTool : Bool :=
  record.kind = .ask || record.kind = .call

/-- The summary says that the variable is kept in the memory. -/
def isPersisted : Bool :=
  match Entries.get? record.summary "persisted" with
  | some (.boolean b) => b
  | _ => false

/-- Statements of this kind call the memory; a set does when its variable is kept there. -/
def usesMemory : Bool :=
  record.kind = .remember || record.kind = .recollect || (record.kind = .set && record.isPersisted)

/-- The text that the summary has under a name. -/
def noted? (name : String) : Option String :=
  match Entries.get? record.summary name with
  | some (.text s) => some s
  | _ => none

/-- The entry of the transcript is the one that the statement leaves. -/
def Left : Utterance → Prop
  | .said _ => record.kind = .say
  | .called tool _ => (record.kind = .ask ∨ record.kind = .call) ∧ record.noted? "tool" = some tool

/-- The run is that of the tool that the summary names. -/
def Ran (catalogue : Catalogue) (run : Tool × List (String × Value)) : Prop :=
  (record.kind = .ask ∨ record.kind = .call) ∧
    ∃ name, record.noted? "tool" = some name ∧ catalogue.get? name = some run.1

/-- The call of the memory is the one that the statement makes, under the key of its summary or, for
a set, under the key of its variable's slot. The summary of a recall has no key before the call has
succeeded. -/
def Called (slots : List (String × Slot)) : MemoryCall → Prop
  | .get key => record.kind = .recollect ∧ (record.outcome = .ok → record.noted? "key" = some key)
  | .append key _ =>
    record.kind = .remember ∧ record.noted? "key" = some key ∧
    record.noted? "mode" = some RememberMode.append.word
  | .set key _ =>
    (record.kind = .remember ∧ record.noted? "key" = some key ∧
      record.noted? "mode" = some RememberMode.set.word) ∨
    (record.kind = .set ∧
      ∃ name slot, record.noted? "name" = some name ∧ Entries.get? slots name = some slot ∧
        key = slot.key)

/-- At most one thing is done, nothing that is not due, and exactly one that is due when the
statement ended well. -/
inductive Once {α : Type} (record : Step) (due : Bool) (fits : α → Prop) : List α → Prop
  | never (spared : record.outcome = .ok → due = false) : Once record due fits []
  | once {a : α} (needed : due = true) (fit : fits a) : Once record due fits [a]

/-- The deeds of a statement are those that its record tells of. -/
structure Accounts (catalogue : Catalogue) (slots : List (String × Slot)) (deeds : Deeds) :
    Prop where
  transcript : Once record record.speaks record.Left deeds.transcript
  runs : Once record record.runsTool (record.Ran catalogue) deeds.runs
  calls : Once record record.usesMemory (record.Called slots) deeds.calls

end Step

/-- The records of a trail account for all its deeds. -/
def Trail.Accounted (catalogue : Catalogue) (slots : List (String × Slot)) : Trail → Prop
  | done => True
  | step record deeds inside later =>
    record.Accounts catalogue slots deeds ∧ inside.Accounted catalogue slots ∧
    later.Accounted catalogue slots

theorem Trail.Accounted.append {catalogue : Catalogue} {slots : List (String × Slot)}
    {front back : Trail} (first : front.Accounted catalogue slots)
    (second : back.Accounted catalogue slots) :
    (front.append back).Accounted catalogue slots := by
  induction front with
  | done => exact second
  | step record deeds inside later _ ih => exact ⟨first.1, first.2.1, ih first.2.2⟩

namespace Run

open Exchange

variable {before middle after : RunState} {asked : List Exchange}

/-- What a part of a run leaves behind: the host was told these records, and these deeds were
done. -/
structure Leaves (before : RunState) (asked : List Exchange) (after : RunState)
    (records : List Step) (deeds : Deeds) :
    Prop where
  told : told asked = records
  transcript : after.transcript = before.transcript ++ deeds.transcript
  output : after.output = before.output ++ deeds.transcript.filterMap Utterance.spoken?
  runs : toolRuns asked = deeds.runs
  calls : memoryCalls asked = deeds.calls
  bot : after.bot = before.bot
  handler : after.handler = before.handler

theorem Leaves.refl (state : RunState) : Leaves state [] state [] .none := by
  constructor <;> simp [Deeds.none]

theorem Leaves.trans {front back : List Exchange} {early late : List Step} {first second : Deeds}
    (before_middle : Leaves before front middle early first)
    (middle_after : Leaves middle back after late second) :
    Leaves before (front ++ back) after (early ++ late) (first.append second) where
  told := by rw [told_append, before_middle.told, middle_after.told]
  transcript := by rw [middle_after.transcript, before_middle.transcript]; simp [Deeds.append]
  output := by rw [middle_after.output, before_middle.output]; simp [Deeds.append]
  runs := by rw [toolRuns_append, before_middle.runs, middle_after.runs]; rfl
  calls := by rw [memoryCalls_append, before_middle.calls, middle_after.calls]; rfl
  bot := middle_after.bot.trans before_middle.bot
  handler := middle_after.handler.trans before_middle.handler

/-- A part of a run adds the records of a trail to those that were there. -/
structure Adds (setup : Setup) (before : RunState) (asked : List Exchange) (after : RunState)
    (trail : Trail) :
    Prop where
  steps : after.steps = before.steps ++ trail.starts
  numbered : trail.NumberedFrom before.steps.length
  leaves : Leaves before asked after trail.ends trail.total
  accounted : trail.Accounted setup.catalogue setup.slots

theorem Adds.refl (setup : Setup) (state : RunState) : Adds setup state [] state .done :=
  ⟨by simp [Trail.starts], rfl, .refl state, trivial⟩

theorem Adds.trans {setup : Setup} {front back : List Exchange} {early late : Trail}
    (first : Adds setup before front middle early) (second : Adds setup middle back after late) :
    Adds setup before (front ++ back) after (early.append late) where
  steps := by rw [second.steps, first.steps, Trail.starts_append, List.append_assoc]
  numbered := by
    refine first.numbered.append ?_
    have length := congrArg List.length first.steps
    rw [List.length_append] at length
    exact length ▸ second.numbered
  leaves := by
    rw [Trail.ends_append, Trail.total_append]
    exact first.leaves.trans second.leaves
  accounted := first.accounted.append second.accounted

/-- The records when a statement has begun. -/
def opened (old : List Step) (kind : StepKind) (p : Position) (summary : List (String × Value)) :
    List Step :=
  old ++ [⟨old.length, kind, p.line, summary, .running⟩]

@[simp] theorem opened_getElem? (old : List Step) (kind : StepKind) (p : Position)
    (summary : List (String × Value)) :
    (opened old kind p summary)[old.length]? =
      some ⟨old.length, kind, p.line, summary, .running⟩ := by
  simp [opened]

theorem opened_append_getElem? (old back : List Step) (kind : StepKind) (p : Position)
    (summary : List (String × Value)) :
    (opened old kind p summary ++ back)[old.length]? =
      some ⟨old.length, kind, p.line, summary, .running⟩ := by
  simp [opened]

private theorem modify_behind {α : Type} (front : List α) (a : α) (back : List α) (f : α → α) :
    (front ++ a :: back).modify front.length f = front ++ f a :: back := by
  induction front with
  | nil => rfl
  | cons head rest ih => simp [ih]

theorem summarize_opened (old : List Step) (kind : StepKind) (p : Position)
    (earlier summary : List (String × Value)) :
    (opened old kind p earlier).modify old.length (fun step => { step with summary }) =
      opened old kind p summary :=
  modify_behind old _ [] _

theorem finish_opened (old : List Step) (kind : StepKind) (p : Position)
    (summary : List (String × Value)) (outcome : StepOutcome) (back : List Step) :
    (opened old kind p summary ++ back).modify old.length (fun step => { step with outcome }) =
      old ++ ⟨old.length, kind, p.line, summary, outcome⟩ :: back := by
  rw [opened, List.append_assoc]
  exact modify_behind old _ back _

/-- What the statement of a record did before its end: it wrote the summary, did some deeds itself
and ran the statements of a trail inside it. -/
structure Fills (setup : Setup) (old : List Step) (kind : StepKind) (p : Position)
    (before : RunState) (asked : List Exchange) (result : Except Stop Unit) (after : RunState)
    (summary : List (String × Value)) (deeds : Deeds) (inside : Trail) : Prop where
  steps : after.steps = opened old kind p summary ++ inside.starts
  numbered : inside.NumberedFrom (old.length + 1)
  leaves : Leaves before asked after inside.ends (deeds.append inside.total)
  accounts : ∀ record : Step, record.kind = kind → record.summary = summary →
    (record.outcome = .ok → result = .ok ()) → record.Accounts setup.catalogue setup.slots deeds
  accounted : inside.Accounted setup.catalogue setup.slots
  ends : inside.Ends result

/-- A statement with nothing inside it. -/
theorem Fills.leaf {setup : Setup} {old : List Step} {kind : StepKind} {p : Position}
    {result : Except Stop Unit}
    {summary : List (String × Value)} {deeds : Deeds}
    (steps : after.steps = opened old kind p summary)
    (leaves : Leaves before asked after [] deeds)
    (accounts : ∀ record : Step, record.kind = kind → record.summary = summary →
      (record.outcome = .ok → result = .ok ()) →
      record.Accounts setup.catalogue setup.slots deeds) :
    Fills setup old kind p before asked result after summary deeds .done where
  steps := by simpa [Trail.starts] using steps
  numbered := rfl
  leaves := by simpa [Trail.ends, Trail.total] using leaves
  accounts := accounts
  accounted := trivial
  ends := Trail.ends_done result

end Run

end BotScript
