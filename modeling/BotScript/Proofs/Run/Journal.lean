import BotScript.Proofs.Run.Course

/-! The journal of a run. Every record that the host is told about is also told in the journal, in
the same order; every call that the transcript notes ends once in the journal, and it ends well
exactly when its statement does. -/

namespace BotScript

open Exchange

namespace Event

/-- The kind of a statement that has ended, and whether it has ended well. -/
def statement? : Event → Option (StepKind × Bool)
  | stepEnded kind ok => some (kind, ok)
  | _ => none

/-- The name of a call that has ended, and whether it has ended well. -/
def call? : Event → Option (String × Bool)
  | toolEnded _ name failure _ => some (name, failure.isNone)
  | _ => none

/-- The bot of a run that has ended, and whether it has ended well. -/
def run? : Event → Option (String × Bool)
  | runFailed _ _ (some bot) => some (bot, false)
  | runFinished _ bot .. => some (bot, true)
  | _ => none

/-- The statements that have ended, in order. -/
def statements (news : List Event) : List (StepKind × Bool) :=
  news.filterMap statement?

/-- The calls that have ended, in order. -/
def calls (news : List Event) : List (String × Bool) :=
  news.filterMap call?

/-- The names of the calls that have ended well, in order. -/
def answered (news : List Event) : List String :=
  (calls news).filterMap fun call => if call.2 then some call.1 else none

/-- The runs that have ended, in order. -/
def runs (news : List Event) : List (String × Bool) :=
  news.filterMap run?

@[simp] theorem statements_append (front back : List Event) :
    statements (front ++ back) = statements front ++ statements back :=
  List.filterMap_append

@[simp] theorem calls_append (front back : List Event) :
    calls (front ++ back) = calls front ++ calls back :=
  List.filterMap_append

@[simp] theorem answered_append (front back : List Event) :
    answered (front ++ back) = answered front ++ answered back := by
  simp [answered]

@[simp] theorem runs_append (front back : List Event) :
    runs (front ++ back) = runs front ++ runs back :=
  List.filterMap_append

end Event

/-- The tool of an entry that notes a call. -/
def Utterance.tool? : Utterance → Option String
  | said _ => none
  | called tool _ => some tool

/-- The tool that has answered a statement that ended well. -/
def Step.served? (record : Step) : Option String :=
  if record.runsTool && record.outcome = .ok then record.noted? "tool" else none

/-- A record as the journal tells it. -/
def Step.told (record : Step) : StepKind × Bool :=
  (record.kind, record.outcome = .ok)

namespace Run

open Event (statements calls answered runs)

variable {setup : Setup} {catalogue : Catalogue} {before middle after : RunState}
  {asked front back : List Exchange} {news early late : List Event}
  {pending : List String} {kind : StepKind} {p : Position} {old : List Step}
  {result : Except Stop Unit}

/-- What a part of a run tells in the journal fits what it does. A tool may have answered whose
statement has not ended yet. -/
structure Tells (catalogue : Catalogue) (before : RunState) (asked : List Exchange)
    (after : RunState) (news : List Event) (pending : List String) : Prop where
  journal : after.journal = before.journal ++ news
  statements : statements news = (told asked).map Step.told
  calls : ∃ entries, after.transcript = before.transcript ++ entries ∧
    (calls news).map Prod.fst = entries.filterMap Utterance.tool?
  answered : answered news = (told asked).filterMap Step.served? ++ pending
  registered : ∀ call ∈ Event.calls news, (catalogue.get? call.1).isSome
  runs : runs news = []

/-- A part that tells nothing and notes no call. -/
theorem Tells.silent {entries : List Utterance} (journal : after.journal = before.journal)
    (transcript : after.transcript = before.transcript ++ entries)
    (spoken : entries.filterMap Utterance.tool? = []) (unheard : told asked = []) :
    Tells catalogue before asked after [] [] where
  journal := by rw [journal, List.append_nil]
  statements := by rw [unheard]; rfl
  calls := ⟨entries, transcript, spoken.symm⟩
  answered := by rw [unheard]; rfl
  registered := List.forall_mem_nil _
  runs := rfl

theorem Tells.refl (state : RunState) : Tells catalogue state [] state [] [] :=
  .silent rfl (List.append_nil _).symm rfl rfl

theorem Tells.trans (first : Tells catalogue before front middle early [])
    (second : Tells catalogue middle back after late pending) :
    Tells catalogue before (front ++ back) after (early ++ late) pending where
  journal := by rw [second.journal, first.journal, List.append_assoc]
  statements := by
    rw [Event.statements_append, first.statements, second.statements, told_append, List.map_append]
  calls := by
    obtain ⟨entries, transcript, named⟩ := first.calls
    obtain ⟨entries', transcript', named'⟩ := second.calls
    refine ⟨entries ++ entries', by rw [transcript', transcript, List.append_assoc], ?_⟩
    rw [Event.calls_append, List.map_append, List.filterMap_append, named, named']
  answered := by
    rw [Event.answered_append, first.answered, second.answered, told_append, List.filterMap_append,
      List.append_nil, List.append_assoc]
  registered := by
    rw [Event.calls_append]
    exact List.forall_mem_append.mpr ⟨first.registered, second.registered⟩
  runs := by rw [Event.runs_append, first.runs, second.runs]; rfl

/-- Only the journal, the transcript and the questions count. -/
theorem Tells.congr {before' after' : RunState}
    (tells : Tells catalogue before asked after news pending)
    (start : before'.journal = before.journal ∧ before'.transcript = before.transcript)
    (finish : after'.journal = after.journal ∧ after'.transcript = after.transcript) :
    Tells catalogue before' asked after' news pending :=
  ⟨by rw [finish.1, start.1, tells.journal], tells.statements,
    by rw [finish.2, start.2]; exact tells.calls,
    tells.answered, tells.registered, tells.runs⟩

/-- Behind questions that tell the host of no record. -/
theorem Tells.behind (quiet : told front = [])
    (tells : Tells catalogue before back after news pending) :
    Tells catalogue before (front ++ back) after news pending :=
  ⟨tells.journal, by rw [told_append, quiet]; exact tells.statements, tells.calls,
    by rw [told_append, quiet]; exact tells.answered, tells.registered, tells.runs⟩

/-- A part of a run tells what it does, and no tool has answered whose statement has not ended. -/
def TellsAll (catalogue : Catalogue) (part : Run Unit) : Prop :=
  ∀ (before : RunState) (asked : List Exchange) (result : Except Stop Unit) (after : RunState),
    Reaches part before asked result after → ∃ news, Tells catalogue before asked after news []

/-- The statement of a record tells what it does. A tool that has answered is the one that the
record names, when the statement ends well. -/
def TellsWithin (catalogue : Catalogue) (kind : StepKind) (statement : Nat → Run Unit) : Prop :=
  ∀ (old : List Step) (p : Position) (before : RunState) (asked : List Exchange)
    (result : Except Stop Unit) (after : RunState),
    before.steps = opened old kind p [] →
    Reaches (statement old.length) before asked result after →
    ∃ summary inner news pending, after.steps = opened old kind p summary ++ inner ∧
      Tells catalogue before asked after news pending ∧
      ∀ record : Step, record.kind = kind → record.summary = summary →
        (record.outcome = .ok ↔ result = .ok ()) →
        record.served?.toList = pending

/-! ## Statements that call no tool -/

/-- A part that tells nothing. -/
def Tacit {α : Type} (part : Run α) : Prop :=
  ∀ (before : RunState) (asked : List Exchange) (result : Except Stop α) (after : RunState),
    Reaches part before asked result after → after.journal = before.journal

namespace Tacit

variable {α β : Type}

theorem bind {part : Run α} {next : α → Run β} (first : Tacit part) (second : ∀ a, Tacit (next a)) :
    Tacit (part >>= next) := by
  intro before asked result after reached
  rcases reaches_bind.mp reached with ⟨a, front, middle, back, now, later, -⟩ | ⟨stop, now, -⟩
  · exact (second a _ _ _ _ later).trans (first _ _ _ _ now)
  · exact first _ _ _ _ now

theorem modify {f : RunState → RunState} (keeps : ∀ state, (f state).journal = state.journal) :
    Tacit (modify f : Run Unit) := by
  intro before asked result after reached
  obtain ⟨-, -, rfl⟩ := reaches_modify.mp reached
  exact keeps before

theorem pure (a : α) : Tacit (pure a) := by
  intro before asked result after reached
  obtain ⟨-, -, rfl⟩ := reaches_pure.mp reached
  rfl

theorem env : Tacit env := by
  intro before asked result after reached
  obtain ⟨-, -, rfl⟩ := reaches_env.mp reached
  rfl

theorem evaluated (value : Except Stop α) : Tacit (evaluated value) := by
  intro before asked result after reached
  obtain ⟨-, -, rfl⟩ := reaches_evaluated.mp reached
  rfl

theorem checked (value : Except Cause α) : Tacit (checked value) := by
  intro before asked result after reached
  obtain ⟨-, -, rfl⟩ := reaches_checked.mp reached
  rfl

theorem host (dialogue : Dialogue α) : Tacit (host dialogue) := by
  intro before asked result after reached
  obtain ⟨-, -, -, rfl⟩ := reaches_host.mp reached
  rfl

theorem hosted (dialogue : Dialogue (Except Fault α)) : Tacit (hosted dialogue) := by
  intro before asked result after reached
  obtain ⟨-, -, -, rfl⟩ := reaches_hosted.mp reached
  rfl

end Tacit

theorem execSay_tacit (expr : Expr) (index : Nat) : Tacit (execSay setup expr index) :=
  .bind .env fun _ => .bind (.evaluated _) fun _ => .bind (.modify fun _ => rfl) fun _ =>
    .modify fun _ => rfl

theorem execSet_tacit (name : String) (expr : Expr) (index : Nat) :
    Tacit (execSet setup name expr index) := by
  refine .bind .env fun _ => .bind (.evaluated _) fun _ => .bind (.modify fun _ => rfl) fun _ =>
    .bind (.modify fun _ => rfl) fun _ => ?_
  split
  · exact .pure _
  · exact .hosted _

theorem execRemember_tacit (key value : Expr) (mode : RememberMode) (index : Nat) :
    Tacit (execRemember setup key value mode index) := by
  refine .bind .env fun _ => .bind (.evaluated _) fun _ => .bind (.checked _) fun _ =>
    .bind (.evaluated _) fun _ =>
    .bind (.modify fun _ => rfl) fun _ => ?_
  cases mode <;> exact .hosted _

theorem execRecollect_tacit (key : Expr) (bindAs : String) (index : Nat) :
    Tacit (execRecollect setup key bindAs index) :=
  .bind .env fun _ => .bind (.evaluated _) fun _ => .bind (.checked _) fun _ =>
    .bind (.host _) fun _ =>
    .bind (.evaluated _) fun _ => .bind (.modify fun _ => rfl) fun _ => .modify fun _ => rfl

/-- A statement that contains no others, calls no tool and tells nothing. -/
theorem IsLeaf.tellsWithin {statement : Nat → Run Unit} (leaf : IsLeaf setup kind statement)
    (tacit : ∀ index, Tacit (statement index)) (apart : kind ≠ .ask ∧ kind ≠ .call) :
    TellsWithin setup.catalogue kind statement := by
  intro old p before asked result after begun reached
  obtain ⟨summary, deeds, fills⟩ := leaf old p before asked result after begun reached
  have unnoted : deeds.transcript.filterMap Utterance.tool? = [] := by
    have accounts :=
      fills.accounts ⟨0, kind, 0, summary, .running⟩ rfl rfl (fun ended => by cases ended)
    have once := accounts.transcript
    generalize deeds.transcript = entries at once
    cases once with
    | never => rfl
    | @once entry _ fit =>
      cases entry with
      | said => rfl
      | called tool args => exact absurd fit.1 (not_or.mpr apart)
  refine ⟨summary, [], [], [], ?_, ?_, ?_⟩
  · simpa [Trail.starts] using fills.steps
  · exact .silent (tacit old.length before asked result after reached)
      (by simpa [Trail.total, Deeds.none, Deeds.append] using fills.leaves.transcript) unnoted
      (by simpa [Trail.ends] using fills.leaves.told)
  · intro record ofKind _ _
    have idle : record.runsTool = false := by simp [Step.runsTool, ofKind, apart]
    simp [Step.served?, idle]

/-! ## Statements that call a tool -/

/-- How a call has ended is told as it is. -/
private theorem conclude_told (call : ToolCall) (work : Except HostError Datum) :
    (call.conclude work).failure.isNone = true ↔
      ∃ answer, (call.conclude work).result = .ok answer := by
  unfold ToolCall.conclude
  cases work.bind (ToolResult.ofDatum call.name) with
  | error error => cases error <;> simp [ToolCall.refused]
  | ok answer =>
    dsimp only
    split <;> simp

/-- A call that was noted is told of when it has ended. -/
private theorem callTool_tells {call : ToolCall} {shown : List (String × Value)}
    {result : Except Stop ToolResult}
    {steps : List Step} (registered : (setup.catalogue.get? call.name).isSome)
    (reached : Reaches (callTool setup call)
      { before with steps, transcript := before.transcript ++ [.called call.name shown] } asked
        result after) :
    after.steps = steps ∧
      ∃ news, Tells setup.catalogue before asked after news (if result.isOk then [call.name]
        else []) := by
  simp only [callTool, tell, reaches_modify_bind, reaches_host_bind] at reached
  obtain ⟨ended, front, back, performed, rest, rfl⟩ := reached
  have unheard := (ToolCall.perform_path performed).told
  obtain ⟨work, _, _, -, concluded, -⟩ := Dialogue.path_bind_iff.mp performed
  obtain ⟨-, rfl⟩ := Dialogue.path_pure_iff.mp concluded
  have told := conclude_told call work
  generalize call.conclude work = ended at *
  have news (state : RunState) (pending : List String)
      (journal : state.journal = (before.journal ++ [call.announcement setup.metadata.runId]) ++
        [call.ending ended])
      (transcript : state.transcript = before.transcript ++ [.called call.name shown])
      (answers : (if ended.failure.isNone then [call.name] else []) = pending) :
      Tells setup.catalogue before front state
        [call.announcement setup.metadata.runId, call.ending ended] pending := by
    refine ⟨by rw [journal, List.append_assoc]; rfl, by rw [unheard]; rfl,
      ⟨_, transcript, rfl⟩, ?_, ?_, rfl⟩
    · have told : calls [call.announcement setup.metadata.runId, call.ending ended] =
          [(call.name, ended.failure.isNone)] := rfl
      rw [unheard, ← answers, answered, told]
      cases ended.failure.isNone <;> rfl
    · simpa [Event.calls, Event.call?, ToolCall.announcement, ToolCall.ending] using registered
  cases given : ended.result with
  | ok answer =>
    rw [given] at rest
    obtain ⟨rfl, rfl, rfl⟩ := reaches_pure.mp rest
    rw [List.append_nil]
    exact ⟨rfl, _, news _ _ rfl rfl (if_pos (told.mpr ⟨answer, given⟩))⟩
  | error fault =>
    rw [given] at rest
    obtain ⟨rfl, rfl, rfl⟩ := reaches_throw.mp rest
    rw [List.append_nil]
    refine ⟨rfl, _, news _ _ rfl rfl (if_neg fun well => ?_)⟩
    obtain ⟨answer, ok⟩ := told.mp well
    cases given.symm.trans ok

/-- A statement that has noted its call in the summary and in the transcript, makes it and binds its
answer. -/
private theorem tells_of_call {call : ToolCall} {summary shown : List (String × Value)}
    {next : ToolResult → Run Unit}
    (caller : kind = .ask ∨ kind = .call)
    (named : Entries.get? summary "tool" = some (.text call.name))
    (registered : (setup.catalogue.get? call.name).isSome)
    (binds : ∀ answer, OnlyBinds (next answer))
    (reached : Reaches (callTool setup call >>= next)
      { before with
        steps := opened old kind p summary
        transcript := before.transcript ++ [.called call.name shown] } asked result after) :
    ∃ summary inner news pending, after.steps = opened old kind p summary ++ inner ∧
      Tells setup.catalogue before asked after news pending ∧
      ∀ record : Step, record.kind = kind → record.summary = summary →
        (record.outcome = .ok ↔ result = .ok ()) →
        record.served?.toList = pending := by
  have served {record : Step} (ofKind : record.kind = kind) (written : record.summary = summary) :
      record.served?.toList = if record.outcome = .ok then [call.name] else [] := by
    have runs : record.runsTool = true := by
      rcases caller with rfl | rfl <;> simp [Step.runsTool, ofKind]
    by_cases ok : record.outcome = .ok <;>
      simp [Step.served?, Step.noted?, runs, ok, written, named]
  rcases reaches_bind.mp reached with ⟨answer, front, middle, back, called, bound, rfl⟩ |
    ⟨stop, called, rfl⟩
  · obtain ⟨steps, news, tells⟩ := callTool_tells registered called
    obtain ⟨rfl, rfl, kept⟩ := binds answer middle back result after bound
    rw [List.append_nil]
    refine ⟨summary, [], news, [call.name], ?_,
      tells.congr ⟨rfl, rfl⟩ (by rw [kept]; exact ⟨rfl, rfl⟩), ?_⟩
    · rw [kept, List.append_nil]
      exact steps
    · intro record ofKind written ended
      rw [served ofKind written, if_pos (ended.mpr rfl)]
  · obtain ⟨steps, news, tells⟩ := callTool_tells registered called
    refine ⟨summary, [], news, [], by rw [List.append_nil]; exact steps, tells, ?_⟩
    intro record ofKind written ended
    rw [served ofKind written, if_neg fun ok => by cases ended.mp ok]

/-- A statement that stops before it has called anything. -/
private theorem tells_idle {summary : List (String × Value)} {stop : Stop}
    (steps : after.steps = opened old kind p summary) (journal : after.journal = before.journal)
    (transcript : after.transcript = before.transcript) :
    ∃ summary inner news pending, after.steps = opened old kind p summary ++ inner ∧
      Tells setup.catalogue before [] after news pending ∧
      ∀ record : Step, record.kind = kind → record.summary = summary →
        (record.outcome = .ok ↔ (.error stop : Except Stop Unit) = .ok ()) →
        record.served?.toList = pending := by
  refine ⟨summary, [], [], [], by rw [List.append_nil]; exact steps,
    .silent journal (by rw [transcript, List.append_nil]) rfl rfl, ?_⟩
  intro record _ _ ended
  have failed : record.outcome ≠ .ok := fun ok => by cases ended.mp ok
  simp [Step.served?, failed]

theorem execAsk_tells (prompt : Expr) (options : List (String × Expr)) :
    TellsWithin setup.catalogue .ask (execAsk setup prompt options) := by
  intro old p before asked result after begun reached
  rcases execAsk_reaches reached with ⟨text, values, name, tool, -, -, found, called⟩ |
    ⟨rfl, rfl, stop, rfl, -⟩
  · rw [summarized_of_begun begun] at called
    have registered := Option.isSome_of_mem (assistant_registered found)
    refine tells_of_call (.inl rfl) ?_ registered (fun answer => bind_onlyBinds _ _) called
    simp [Redaction.event, Redaction.field, Redaction.promptFields, Entries.get?]
  · exact tells_idle begun rfl rfl

theorem execCall_tells (name : String) (args : List (String × Expr)) (bindAs : Option String) :
    TellsWithin setup.catalogue .call (execCall setup name args bindAs) := by
  intro old p before asked result after begun reached
  rcases execCall_reaches reached with ⟨tool, values, found, -, called⟩ | ⟨rfl, rfl, stop, rfl, -⟩
  · rw [summarized_of_begun begun] at called
    have registered := Option.isSome_of_mem (get?_of_require found)
    refine tells_of_call (.inr rfl) ?_ registered (bindAnswer_onlyBinds bindAs) called
    simp [Redaction.event, Redaction.field, Redaction.promptFields, Entries.get?]
  · rw [summarized_of_begun begun]
    exact tells_idle rfl rfl rfl

/-! ## Statements with their records -/

/-- The end of a statement is told, and with it nothing is left of a tool that has answered it. -/
private theorem finish_tells {summary : List (String × Value)} {back : List Step}
    {outcome : StepOutcome} (begun : before.steps = opened old kind p summary ++ back)
    (reached : Reaches (finish old.length outcome) before asked result after) :
    ∃ news, after.journal = before.journal ++ news ∧ after.transcript = before.transcript ∧
      told asked = [⟨old.length, kind, p.line, summary, outcome⟩] ∧
      statements news = [(kind, decide (outcome = .ok))] ∧
      calls news = [] ∧ runs news = [] := by
  obtain ⟨-, news, rfl, ⟨nowhere, -⟩ | ⟨record, heard, found, rfl, rfl⟩⟩ := finish_course reached
  · rw [begun, opened_append_getElem?] at nowhere
    cases nowhere
  · rw [begun, opened_append_getElem?] at found
    obtain rfl := Option.some.inj found
    cases heard <;> exact ⟨_, rfl, rfl, rfl, rfl, rfl, rfl⟩

private theorem outcomeOf_ok_iff {kept : Except Stop Unit} :
    outcomeOf p kept = .ok ↔ kept = .ok () := by
  cases kept with
  | ok => exact ⟨fun _ => rfl, fun _ => rfl⟩
  | error stop =>
    refine ⟨fun well => ?_, fun impossible => by cases impossible⟩
    cases stop with
    | fault fault =>
      simp only [outcomeOf, StepOutcome.ofFault] at well
      split at well <;> cases well
    | escape escape => cases well

theorem recorded_tells {statement : Nat → Run Unit}
    (within : TellsWithin setup.catalogue kind statement) :
    TellsAll setup.catalogue (recorded setup.deadline kind p statement) := by
  intro before asked result after reached
  rcases recorded_reaches reached with ⟨-, first, rfl⟩ |
    ⟨front, during, telling, kept, middle, rfl, first, performed, finished, -⟩
  · exact ⟨[], .silent rfl (List.append_nil _).symm rfl (checkpoint_reaches first).1.told⟩
  · obtain ⟨summary, inner, news, pending, steps, tells, served⟩ :=
      within _ p _ during kept middle rfl performed
    obtain ⟨late, journal, transcript, told, ended, uncalled, unrun⟩ := finish_tells steps finished
    have own :=
      served ⟨before.steps.length, kind, p.line, summary, outcomeOf p kept⟩ rfl rfl outcomeOf_ok_iff
    refine ⟨news ++ late, .behind (checkpoint_reaches first).1.told ?_⟩
    refine ⟨?_, ?_, ?_, ?_, ?_, ?_⟩
    · rw [journal, tells.journal, List.append_assoc]
    · rw [Event.statements_append, tells.statements, ended, told_append, told, List.map_append]
      rfl
    · rw [transcript, Event.calls_append, uncalled, List.append_nil]
      exact tells.calls
    · have unanswered : answered late = [] := by rw [answered, uncalled]; rfl
      rw [Event.answered_append, tells.answered, unanswered, told_append, told,
        List.filterMap_append, List.append_nil, List.append_nil, ← own,
        List.filterMap_eq_flatMap_toList Step.served? [_], List.flatMap_singleton]
    · rw [Event.calls_append, uncalled, List.append_nil]
      exact tells.registered
    · rw [Event.runs_append, tells.runs, unrun]
      rfl

/-! ## Statements that contain others -/

theorem TellsAll.bind {part next : Run Unit} (first : TellsAll catalogue part)
    (second : TellsAll catalogue next) :
    TellsAll catalogue (part >>= fun _ => next) := by
  intro before asked result after reached
  rcases reaches_bind.mp reached with ⟨⟨⟩, front, middle, back, now, later, rfl⟩ | ⟨stop, now, rfl⟩
  · obtain ⟨early, tells⟩ := first before front _ middle now
    obtain ⟨late, more⟩ := second middle back result after later
    exact ⟨early ++ late, tells.trans more⟩
  · exact first before asked _ after now

theorem TellsAll.pure : TellsAll catalogue (pure ()) := by
  intro before asked result after reached
  obtain ⟨rfl, rfl, rfl⟩ := reaches_pure.mp reached
  exact ⟨[], .refl _⟩

theorem TellsAll.modify {f : RunState → RunState}
    (keeps : ∀ state, (f state).journal = state.journal ∧ (f state).transcript = state.transcript) :
    TellsAll catalogue (modify f) := by
  intro before asked result after reached
  obtain ⟨rfl, rfl, rfl⟩ := reaches_modify.mp reached
  exact ⟨[], (Tells.refl _).congr ⟨rfl, rfl⟩ (keeps before)⟩

theorem TellsAll.forEach {β : Type} {part : β → Run Unit}
    (each : ∀ item, TellsAll catalogue (part item)) (items : List β) :
    TellsAll catalogue (forEach part items) := by
  induction items with
  | nil => exact .pure
  | cons item rest ih => exact .bind (each item) ih

/-- A part tells nothing of the value that it goes on with. -/
theorem TellsAll.evaluated {α : Type} {value : Except Stop α} {next : α → Run Unit}
    (rest : ∀ a, TellsAll catalogue (next a)) : TellsAll catalogue (evaluated value >>= next) := by
  intro before asked result after reached
  rcases reaches_evaluated_bind.mp reached with ⟨a, -, later⟩ | ⟨stop, -, rfl, rfl, rfl⟩
  · exact rest a before asked result after later
  · exact ⟨[], .refl _⟩

theorem TellsAll.checked {α : Type} {value : Except Cause α} {next : α → Run Unit}
    (rest : ∀ a, TellsAll catalogue (next a)) : TellsAll catalogue (checked value >>= next) := by
  intro before asked result after reached
  rcases reaches_checked_bind.mp reached with ⟨a, -, later⟩ | ⟨cause, -, rfl, rfl, rfl⟩
  · exact rest a before asked result after later
  · exact ⟨[], .refl _⟩

theorem TellsAll.env {next : Environment → Run Unit} (rest : ∀ env, TellsAll catalogue (next env)) :
    TellsAll catalogue (env >>= next) := by
  intro before asked result after reached
  exact rest before.env before asked result after (reaches_env_bind.mp reached)

theorem TellsAll.restoring {name : String} {part : Run Unit} (tells : TellsAll catalogue part) :
    TellsAll catalogue (restoring name part) := by
  intro before asked result after reached
  simp only [Run.restoring, reaches_env_bind, reaches_attempt_bind, reaches_inside,
    reaches_modify_bind, reaches_evaluated] at reached
  obtain ⟨kept, front, middle, back, inner, ⟨rfl, rfl, rfl⟩, rfl⟩ := reached
  obtain ⟨news, told⟩ := tells before front _ middle inner
  rw [List.append_nil]
  exact ⟨news, told.congr ⟨rfl, rfl⟩ ⟨rfl, rfl⟩⟩

/-- A statement that calls no tool itself tells what runs inside it. -/
theorem Performs.tellsWithin {inner : Trail → Prop} {statement : Nat → Run Unit}
    (performs : Performs setup kind inner statement) (apart : kind ≠ .ask ∧ kind ≠ .call)
    (tells : ∀ index, TellsAll catalogue (statement index)) :
    TellsWithin catalogue kind statement := by
  intro old p before asked result after begun reached
  obtain ⟨summary, deeds, inside, fills, -⟩ :=
    performs old p before asked result after begun reached
  obtain ⟨news, told⟩ := tells old.length before asked result after reached
  refine ⟨summary, inside.starts, news, [], fills.steps, told, fun record ofKind _ _ => ?_⟩
  have idle : record.runsTool = false := by simp [Step.runsTool, ofKind, apart]
  simp [Step.served?, idle]

mutual

/-- A statement tells what it does. -/
theorem exec_tells (setup : Setup) (stmt : Stmt) : TellsAll setup.catalogue (exec setup stmt) := by
  match stmt with
  | .say expr p =>
    rw [exec]
    exact recorded_tells ((say_isLeaf setup expr).tellsWithin (execSay_tacit expr) (by decide))
  | .ask prompt options p =>
    rw [exec]
    exact recorded_tells (execAsk_tells prompt options)
  | .set name expr p =>
    rw [exec]
    exact recorded_tells ((set_isLeaf setup name expr).tellsWithin
      (execSet_tacit name expr) (by decide))
  | .call tool args bindAs p =>
    rw [exec]
    exact recorded_tells (execCall_tells tool args bindAs)
  | .branch condition thenBody elseBody p =>
    rw [exec]
    have performs := @branch_performs _ condition _ _ (execAll_follows setup thenBody)
      (execElse_follows setup elseBody) p
    refine recorded_tells (performs.tellsWithin (by decide) fun index => ?_)
    refine .env fun env => .evaluated fun holds => .bind (.modify fun _ => ⟨rfl, rfl⟩) ?_
    cases holds with
    | true => exact execAll_tells setup thenBody
    | false => exact execElse_tells setup elseBody
  | .loop item collection body p =>
    rw [exec]
    have performs := @loop_performs _ item collection _ p (execAll_follows setup body)
    refine recorded_tells (performs.tellsWithin (by decide) fun index => ?_)
    refine .env fun env => .evaluated fun value => .checked fun items =>
      .bind (.modify fun _ => ⟨rfl, rfl⟩) ?_
    have round (value : Value) : TellsAll setup.catalogue (Run.bind item value) :=
      .modify fun _ => ⟨rfl, rfl⟩
    exact .restoring (.forEach (fun value => .bind (round value) (execAll_tells setup body)) items)
  | .remember key value mode p =>
    rw [exec]
    exact recorded_tells
      ((remember_isLeaf setup key value mode).tellsWithin
        (execRemember_tacit key value mode) (by decide))
  | .recollect key bindAs p =>
    rw [exec]
    exact recorded_tells ((recollect_isLeaf setup key bindAs).tellsWithin
      (execRecollect_tacit key bindAs) (by decide))

/-- A block tells what its statements do. -/
theorem execAll_tells (setup : Setup) (body : List Stmt) :
    TellsAll setup.catalogue (execAll setup body) := by
  match body with
  | [] =>
    rw [execAll]
    exact .pure
  | stmt :: rest =>
    rw [execAll]
    exact .bind (exec_tells setup stmt) (execAll_tells setup rest)

/-- So does the block of a branch that may be missing. -/
theorem execElse_tells (setup : Setup) (elseBody : Option (List Stmt)) :
    TellsAll setup.catalogue (execElse setup elseBody) := by
  match elseBody with
  | none =>
    rw [execElse]
    exact .pure
  | some body =>
    rw [execElse]
    exact execAll_tells setup body

end

/-! ## Whole runs -/

theorem loadVariables_tells (setup : Setup) : TellsAll catalogue (loadVariables setup) := by
  intro before asked result after reached
  obtain ⟨unheard, -, -, -, kept⟩ := loadVariables_reaches reached
  exact ⟨[], .silent (by rw [kept]) (by rw [kept, List.append_nil]) rfl unheard⟩

/-- An event for which there is no handler is told. It ends nothing. -/
theorem unanswered_tells (runId : String) : TellsAll catalogue (tell (.unanswered runId)) := by
  intro before asked result after reached
  obtain ⟨rfl, rfl, rfl⟩ := reaches_modify.mp reached
  exact ⟨[.unanswered runId], rfl, rfl, ⟨[], (List.append_nil _).symm, rfl⟩, rfl,
    List.forall_mem_nil _, rfl⟩

theorem answer_tells (request : RunRequest) (setup : Setup) (bot : Bot) :
    TellsAll setup.catalogue (answer request setup bot) := by
  refine .env fun env => .evaluated fun found => ?_
  match found with
  | some (index, handler) =>
    exact .bind (.modify fun _ => ⟨rfl, rfl⟩) (execAll_tells setup handler.body)
  | none =>
    dsimp only
    split
    · exact unanswered_tells request.metadata.runId
    · intro before asked result after reached
      obtain ⟨rfl, rfl, rfl⟩ := reaches_fail.mp reached
      exact ⟨[], .refl _⟩

/-- The run of a program tells what it does. -/
theorem program_tells (request : RunRequest) (program : Program) :
    TellsAll request.catalogue (Run.program request program) := by
  refine .checked fun bot => .bind (.modify fun _ => ⟨rfl, rfl⟩) ?_
  intro before asked result after reached
  obtain ⟨start, front, back, observed, rest, rfl⟩ := reaches_host_bind.mp reached
  obtain rfl := Dialogue.path_query_iff.mp observed
  rcases reaches_evaluated_bind.mp rest with ⟨catalogue, offered, rest⟩ | ⟨stop, -, rfl, rfl, rfl⟩
  · have registered : catalogue = request.catalogue := by
      unfold RunRequest.catalogue
      cases given : Catalogue.ofOffers request.offers <;> simp_all [mapError_ok, mapError_error]
    subst registered
    obtain ⟨news, tells⟩ := TellsAll.bind (loadVariables_tells _)
      (answer_tells request (request.setup bot request.catalogue start.now) bot) before back
        result after rest
    exact ⟨news, .behind rfl tells⟩
  · exact ⟨[], .silent rfl (List.append_nil _).symm rfl rfl⟩

/-- A program that ran to its end has chosen a bot. -/
theorem program_bot {request : RunRequest} {program : Program}
    (reached : Reaches (Run.program request program) before asked (.ok ()) after) :
    after.bot.isSome := by
  simp only [Run.program, reaches_checked_bind, reaches_modify_bind, reaches_host_bind,
    reaches_evaluated_bind] at reached
  rcases reached with
    ⟨bot, -, start, front, back, -, ⟨catalogue, -, reached⟩ | ⟨_, _, _, impossible, _⟩, -⟩ |
    ⟨_, _, _, impossible, _⟩
  · rcases reaches_bind.mp reached with ⟨⟨⟩, loading, ready, rest, loaded, answered, -⟩ |
      ⟨_, _, impossible⟩
    · obtain ⟨-, -, -, -, kept⟩ := loadVariables_reaches loaded
      have chosen : ready.bot = some bot.name := by rw [kept]
      simp only [answer, reaches_env_bind, reaches_evaluated_bind] at answered
      rcases answered with ⟨found, -, answered⟩ | ⟨_, _, _, impossible, _⟩
      · cases found with
        | some listed =>
          obtain ⟨_, adds, -⟩ :=
            execAll_follows _ listed.2.body _ rest _ after (reaches_modify_bind.mp answered)
          rw [adds.leaves.bot, chosen]
          rfl
        | none =>
          dsimp only at answered
          split at answered
          · obtain ⟨-, -, rfl⟩ := reaches_modify.mp answered
            rw [chosen]
            rfl
          · cases (reaches_fail.mp answered).2.1
      · cases impossible
    · cases impossible
  · cases impossible
  · cases impossible

end Run

theorem toolsFrom_named {index : Nat} {offers : List Offer} {tools : List Tool}
    (taken : toolsFrom index offers = .ok tools) : ∀ tool ∈ tools, tool.name ≠ "" := by
  induction offers generalizing index tools with
  | nil =>
    obtain rfl := Except.ok.inj taken
    exact List.forall_mem_nil _
  | cons offer rest ih =>
    rw [toolsFrom] at taken
    cases first : offer.tool? index with
    | error escape =>
      rw [first] at taken
      cases taken
    | ok tool =>
      cases others : toolsFrom (index + 1) rest with
      | error escape =>
        rw [first, others] at taken
        cases taken
      | ok later =>
        rw [first, others] at taken
        obtain rfl := Except.ok.inj taken
        refine List.forall_mem_cons.mpr ⟨?_, ih others⟩
        unfold Offer.tool? at first
        repeat' split at first
        all_goals cases first
        simp_all

/-- No tool is found under an empty name. -/
theorem Catalogue.ofOffers_named {offers : List Offer} {catalogue : Catalogue} {name : String}
    (offered : Catalogue.ofOffers offers = .ok catalogue) (found : (catalogue.get? name).isSome) :
    name ≠ "" := by
  cases taken : toolsFrom 0 offers with
  | error escape =>
    rw [ofOffers, taken] at offered
    cases offered
  | ok tools =>
    rw [ofOffers, taken] at offered
    obtain rfl := Except.ok.inj offered
    obtain ⟨tool, got⟩ := Option.isSome_iff_exists.mp found
    rcases List.mem_append.mp (Entries.mem_ofList (Entries.mem_of_get? got)) with listed | listed
    · obtain ⟨candidate, -, entry⟩ := List.mem_filterMap.mp listed
      unfold byCapability? at entry
      repeat' split at entry
      all_goals cases entry
      assumption
    · obtain ⟨candidate, member, entry⟩ := List.mem_map.mp listed
      obtain ⟨rfl, rfl⟩ := Prod.mk.inj entry
      exact toolsFrom_named taken candidate member

/-- What the journal of a run tells is what its result shows. -/
structure RunResult.Told (result : RunResult) (journal : List Event) : Prop where
  statements : (Event.statements journal).Perm (result.steps.map Step.told)
  calls : (Event.calls journal).map Prod.fst = result.transcript.filterMap Utterance.tool?
  answered : (Event.answered journal).Perm (result.steps.filterMap Step.served?)
  named : ∀ call ∈ Event.calls journal, call.1 ≠ ""
  runs : Event.runs journal = (result.bot.map fun bot => (bot, result.success)).toList

namespace RunRequest

open Run

variable {request : RunRequest} {asked : List Exchange} {result : RunResult} {journal : List Event}

/-- The last event of a run tells its bot and whether it has failed. -/
private theorem told_of_tells {env : Environment} {state : RunState} {news : List Event}
    {failure : Option RunFailure} {last : Event}
    (tells : Tells request.catalogue (.initial env) asked state news [])
    (heard : (Exchange.told asked).Perm state.steps) (statement : last.statement? = none)
    (call : last.call? = none)
    (ended : last.run? = state.bot.map fun bot => (bot, failure.isNone)) :
    (request.resultOf failure state).Told (state.journal ++ [last]) := by
  have journal : state.journal = news := by rw [tells.journal]; rfl
  have unsaid : Event.statements [last] = [] := by simp [Event.statements, statement]
  have uncalled : Event.calls [last] = [] := by simp [Event.calls, call]
  have unanswered : Event.answered [last] = [] := by rw [Event.answered, uncalled]; rfl
  have closing : Event.runs [last] = last.run?.toList := by
    rw [Event.runs, List.filterMap_eq_flatMap_toList, List.flatMap_singleton]
  refine ⟨?_, ?_, ?_, ?_, ?_⟩
  · rw [journal, Event.statements_append, unsaid, List.append_nil, tells.statements]
    exact heard.map _
  · obtain ⟨entries, transcript, named⟩ := tells.calls
    rw [journal, Event.calls_append, uncalled, List.append_nil, named]
    exact congrArg _ transcript.symm
  · rw [journal, Event.answered_append, unanswered, List.append_nil, tells.answered,
      List.append_nil]
    exact heard.filterMap _
  · rw [journal, Event.calls_append, uncalled, List.append_nil]
    intro call member
    have found := tells.registered call member
    unfold catalogue at found
    split at found
    · rename_i offered
      exact Catalogue.ofOffers_named offered found
    · cases found
  · rw [journal, Event.runs_append, tells.runs, closing, ended]
    rfl

/-- The journal of every run that comes to a result tells what the result shows. -/
theorem execute_told (path : request.execute.Path asked (.ok result, journal)) :
    result.Told journal := by
  obtain ⟨turns, unfolds, -⟩ := unfolds_of_execute path
  generalize concluded : (Except.ok result, journal) = outcome at unfolds
  cases unfolds with
  | refused wrong =>
    obtain ⟨report, rfl, rfl⟩ := reject_eq_ok concluded.symm
    exact ⟨.refl _, rfl, .refl _, List.forall_mem_nil _, rfl⟩
  | unconvertible parsed unbound => cases concluded
  | @performed _ _ _ _ after parsed bound taken =>
    have reached := taken.reaches
    obtain ⟨trail, course⟩ := program_course parsed reached
    obtain ⟨news, tells⟩ := program_tells request _ _ _ _ after reached
    have heard : (Exchange.told (turns.map Turn.exchange)).Perm after.steps := by
      rw [course.told, course.steps]
      exact trail.ends_perm_starts
    rcases conclude_eq_ok concluded.symm with ⟨rfl, rfl, rfl⟩ | ⟨fault, failure, rfl, -, rfl, rfl⟩
    · obtain ⟨bot, chosen⟩ := Option.isSome_iff_exists.mp (program_bot reached)
      exact told_of_tells tells heard rfl rfl (by rw [chosen]; rfl)
    · exact told_of_tells tells heard rfl rfl (by cases after.bot <;> rfl)

end RunRequest

end BotScript
