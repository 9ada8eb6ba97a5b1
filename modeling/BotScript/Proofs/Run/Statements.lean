import BotScript.Proofs.Run.Accounts

/-! The statements that contain no others, one by one: whatever way such a statement ends, its
record accounts for what it did. -/

namespace BotScript

open Step (Once)

namespace Step.Accounts

variable {setup : Setup} {record : Step} {result : Except Stop Unit}

/-- A statement that did nothing and did not end well. -/
theorem idle (failed : record.outcome ≠ .ok) : record.Accounts setup.catalogue setup.slots .none :=
  ⟨.never fun ended => absurd ended failed, .never fun ended => absurd ended failed,
    .never fun ended => absurd ended failed⟩

end Step.Accounts

namespace Run

open Exchange

variable {setup : Setup} {old : List Step} {p : Position} {before after : RunState}
  {asked : List Exchange}
  {result : Except Stop Unit}

/-- A statement that contains no others accounts for its deeds. -/
def IsLeaf (setup : Setup) (kind : StepKind) (statement : Nat → Run Unit) : Prop :=
  ∀ (old : List Step) (p : Position) (before : RunState) (asked : List Exchange)
    (result : Except Stop Unit) (after : RunState),
    before.steps = opened old kind p [] →
    Reaches (statement old.length) before asked result after →
    ∃ summary deeds, Fills setup old kind p before asked result after summary deeds .done

private theorem not_ended {record : Step} {stop : Stop}
    (ended : record.outcome = .ok → (.error stop : Except Stop Unit) = .ok ()) :
    record.outcome ≠ .ok := by
  intro ok
  cases ended ok

/-- A statement that stops before it has done anything. -/
theorem fills_idle {kind : StepKind} {summary : List (String × Value)} {stop : Stop}
    (steps : after.steps = opened old kind p summary) (leaves : Leaves before [] after [] .none) :
    ∃ summary deeds, Fills setup old kind p before [] (.error stop) after summary deeds .done :=
  ⟨summary, .none, .leaf steps leaves fun _ _ _ ended => .idle (not_ended ended)⟩

theorem say_isLeaf (setup : Setup) (expr : Expr) : IsLeaf setup .say (execSay setup expr) := by
  intro old p before asked result after begun reached
  simp only [execSay, say, summarize, reaches_env_bind, reaches_evaluated_bind, reaches_modify_bind,
    reaches_modify] at reached
  rcases reached with ⟨text, -, rfl, rfl, rfl⟩ | ⟨stop, -, rfl, rfl, rfl⟩
  · refine ⟨setup.redaction.event [("text", .text text)], ⟨[.said text], [], []⟩, .leaf ?_ ?_ ?_⟩
    · simp only [begun]
      exact summarize_opened old .say p [] _
    · constructor <;> rfl
    · intro record kind summary ended
      refine ⟨.once ?_ kind, .never ?_, .never ?_⟩ <;>
        simp [Step.speaks, Step.runsTool, Step.usesMemory, kind]
  · exact fills_idle begun (.refl _)

/-- Calling a tool changes nothing but the journal, and runs the tool once unless the call fails
without it. -/
theorem callTool_reaches {call : ToolCall} {result : Except Stop ToolResult}
    (reached : Reaches (callTool setup call) before asked result after) :
    ToolCall.Single call asked (∃ stop, result = .error stop) ∧
      after = { before with journal := after.journal } := by
  simp only [callTool, tell, reaches_modify_bind, reaches_host_bind] at reached
  obtain ⟨ended, front, back, performed, rest, rfl⟩ := reached
  have single := ToolCall.perform_path performed
  cases given : ended.result with
  | ok value =>
    rw [given] at rest single
    obtain ⟨rfl, rfl, rfl⟩ := reaches_pure.mp rest
    rw [List.append_nil]
    exact ⟨single.imp fun failed => absurd failed not_failed, rfl⟩
  | error fault =>
    rw [given] at rest single
    obtain ⟨rfl, rfl, rfl⟩ := reaches_throw.mp rest
    rw [List.append_nil]
    exact ⟨single.imp fun _ => ⟨_, rfl⟩, rfl⟩

/-- The deeds of a statement that notes a call and then makes it. -/
private theorem accounts_of_call {record : Step} {call : ToolCall} {shown : List (String × Value)}
    {runs : List (Tool × List (String × Value))} (kind : record.kind = .ask ∨ record.kind = .call)
    (named : record.noted? "tool" = some call.name)
    (registered : setup.catalogue.get? call.name = some call.tool)
    (once : runs = [(call.tool, call.args)] ∨ (runs = [] ∧ record.outcome ≠ .ok)) :
    record.Accounts setup.catalogue setup.slots ⟨[.called call.name shown], runs, []⟩ := by
  have due : record.runsTool = true := by rcases kind with kind | kind <;>
    simp [Step.runsTool, kind]
  have spoken : record.speaks = true := by rcases kind with kind | kind <;> simp [Step.speaks, kind]
  have apart : record.usesMemory = false := by rcases kind with kind | kind <;>
    simp [Step.usesMemory, kind]
  refine ⟨.once spoken ⟨kind, named⟩, ?_, .never fun _ => apart⟩
  rcases once with rfl | ⟨rfl, failed⟩
  · exact .once due ⟨kind, _, named, registered⟩
  · exact .never fun ended => absurd ended failed

/-- A part that does nothing but bind variables. -/
def OnlyBinds (part : Run Unit) : Prop :=
  ∀ (before : RunState) (asked : List Exchange) (result : Except Stop Unit) (after : RunState),
    Reaches part before asked result after → asked = [] ∧ result = .ok () ∧
    after = { before with env := after.env }

theorem bind_onlyBinds (name : String) (value : Value) : OnlyBinds (bind name value) := by
  intro before asked result after reached
  obtain ⟨rfl, rfl, rfl⟩ := reaches_modify.mp reached
  exact ⟨rfl, rfl, rfl⟩

theorem pure_onlyBinds : OnlyBinds (pure ()) := by
  intro before asked result after reached
  obtain ⟨rfl, rfl, rfl⟩ := reaches_pure.mp reached
  exact ⟨rfl, rfl, rfl⟩

/-- The answer of a tool is bound where a name is given for it. -/
def bindAnswer (bindAs : Option String) (answer : ToolResult) : Run Unit :=
  match bindAs with
  | none => pure ()
  | some target => bind target answer.value

theorem bindAnswer_onlyBinds (bindAs : Option String) (answer : ToolResult) :
    OnlyBinds (bindAnswer bindAs answer) := by
  cases bindAs with
  | none => exact pure_onlyBinds
  | some target => exact bind_onlyBinds _ _

/-! ### Statements that call a tool -/

/-- The state with another summary in a record. -/
def summarized (index : Nat) (summary : List (String × Value)) (state : RunState) : RunState :=
  { state with steps := state.steps.modify index fun step => { step with summary } }

theorem summarize_eq (index : Nat) (summary : List (String × Value)) :
    summarize index summary = modify (summarized index summary) := rfl

theorem summarized_env (index : Nat) (summary : List (String × Value)) (state : RunState) :
    (summarized index summary state).env = state.env := rfl

theorem summarized_transcript (index : Nat) (summary : List (String × Value)) (state : RunState) :
    (summarized index summary state).transcript = state.transcript := rfl

theorem summarized_of_begun {kind : StepKind} {earlier : List (String × Value)}
    (begun : before.steps = opened old kind p earlier) (summary : List (String × Value)) :
    summarized old.length summary before = { before with steps := opened old kind p summary } := by
  rw [summarized, begun, summarize_opened]

/-- The last summary counts. -/
theorem summarized_again (index : Nat) (summary earlier : List (String × Value))
    (state : RunState) :
    summarized index summary (summarized index earlier state) = summarized index summary state := by
  simp only [summarized, List.modify_modify_eq]
  rfl

/-- A prompt calls the assistant, with its prompt, its options and the tool that was found in its
record and in the transcript, or it has stopped before and left everything as it was. -/
theorem execAsk_reaches {prompt : Expr} {options : List (String × Expr)} {index : Nat}
    (reached : Reaches (execAsk setup prompt options index) before asked result after) :
    (∃ text values name tool, prompt.render before.env = .ok text ∧
        Expr.evaluateEntries before.env options = .ok values ∧
        assistant setup = .ok (name, tool) ∧
        Reaches
          (callTool setup ⟨tool, name, promptArgs setup text (Entries.ofList values)⟩ >>=
            fun answer => bind Stmt.resultName answer.value)
          { summarized index
              (setup.redaction.event [("tool", .text name), ("prompt", .text text),
                ("model", modelOf setup (Entries.ofList values))]) before with
            transcript := before.transcript ++ [.called name
              (setup.redaction.event (promptArgs setup text (Entries.ofList values)))] }
          asked result after) ∨
      (asked = [] ∧ after = before ∧ ∃ stop, result = .error stop ∧
        (prompt.render before.env = .error stop ∨
          Expr.evaluateEntries before.env options = .error stop ∨
          ∃ cause, assistant setup = .error cause ∧ stop = .fault (.of cause))) := by
  simp only [execAsk, summarize_eq, noteCall, reaches_env_bind, reaches_evaluated_bind,
    reaches_checked_bind, reaches_modify_bind, summarized_transcript] at reached
  rcases reached with ⟨text, rendered,
    ⟨values, evaluated, ⟨⟨name, tool⟩, found, called⟩ | ⟨cause, refused, rfl, rfl, rfl⟩⟩ |
    ⟨stop, failed, rfl, rfl, rfl⟩⟩ | ⟨stop, failed, rfl, rfl, rfl⟩
  · exact .inl ⟨text, values, name, tool, rendered, evaluated, found, called⟩
  · exact .inr ⟨rfl, rfl, _, rfl, .inr (.inr ⟨cause, refused, rfl⟩)⟩
  · exact .inr ⟨rfl, rfl, stop, rfl, .inr (.inl failed)⟩
  · exact .inr ⟨rfl, rfl, stop, rfl, .inl failed⟩

/-- A `call` calls its tool, with the arguments in its record and in the transcript, or it has
stopped before and left nothing but the names in its record. -/
theorem execCall_reaches {name : String} {args : List (String × Expr)} {bindAs : Option String}
    {index : Nat}
    (reached : Reaches (execCall setup name args bindAs index) before asked result after) :
    (∃ tool values, setup.catalogue.require name = .ok tool ∧
        Expr.evaluateEntries before.env args = .ok values ∧
        Reaches (callTool setup ⟨tool, name, Entries.ofList values⟩ >>= bindAnswer bindAs)
          { summarized index (setup.redaction.event
              [("tool", .text name), ("args", .object (Entries.ofList values)),
                ("bind_as", .ofText? bindAs)]) before with
            transcript :=
  before.transcript ++ [.called name (setup.redaction.entries (Entries.ofList values))] }
          asked result after) ∨
      (asked = [] ∧ after = summarized index
          [("tool", .text name), ("bind_as", .ofText? bindAs)] before ∧
        ∃ stop, result = .error stop ∧
          ((∃ cause, setup.catalogue.require name = .error cause ∧ stop = .fault (.of cause)) ∨
          ∃ tool, setup.catalogue.require name = .ok tool ∧
            Expr.evaluateEntries before.env args = .error stop)) := by
  simp only [execCall, summarize_eq, noteCall, reaches_env_bind, reaches_evaluated_bind,
    reaches_checked_bind, reaches_modify_bind, summarized_env, summarized_transcript,
    summarized_again] at reached
  rcases reached with ⟨tool, found, ⟨values, evaluated, called⟩ | ⟨stop, failed, rfl, rfl, rfl⟩⟩ |
    ⟨cause, refused, rfl, rfl, rfl⟩
  · exact .inl ⟨tool, values, found, evaluated, called⟩
  · exact .inr ⟨rfl, rfl, stop, rfl, .inr ⟨tool, found, failed⟩⟩
  · exact .inr ⟨rfl, rfl, _, rfl, .inl ⟨cause, refused, rfl⟩⟩

/-- A statement that has noted its call in the summary and in the transcript, makes it and binds its
answer. -/
private theorem fills_of_call {kind : StepKind} {call : ToolCall}
    {summary shown : List (String × Value)}
    {next : ToolResult → Run Unit} (caller : kind = .ask ∨ kind = .call)
    (named : Entries.get? summary "tool" = some (.text call.name))
    (registered : setup.catalogue.get? call.name = some call.tool)
    (binds : ∀ answer, OnlyBinds (next answer))
    (reached : Reaches (callTool setup call >>= next)
      { before with
        steps := opened old kind p summary
        transcript := before.transcript ++ [.called call.name shown] } asked result after) :
    ∃ summary deeds, Fills setup old kind p before asked result after summary deeds .done := by
  have noted : ∀ record : Step, record.summary = summary →
      record.noted? "tool" = some call.name := by
    intro record written
    simp [Step.noted?, written, named]
  refine ⟨summary, ⟨[.called call.name shown], toolRuns asked, []⟩, ?_⟩
  rcases reaches_bind.mp reached with ⟨answer, front, middle, back, called, bound, rfl⟩ |
    ⟨stop, called, rfl⟩
  · obtain ⟨single, same⟩ := callTool_reaches called
    obtain ⟨rfl, rfl, kept⟩ := binds answer middle back result after bound
    rw [List.append_nil]
    refine .leaf ?_ ⟨single.told, ?_, ?_, rfl, single.calls, ?_, ?_⟩ ?_
    all_goals try (rw [kept, same])
    · simp [Utterance.spoken?]
    · intro record ofKind written _
      refine accounts_of_call (ofKind ▸ caller) (noted record written) registered ?_
      exact single.runs.imp_right (And.imp_right fun failed => absurd failed not_failed)
  · obtain ⟨single, same⟩ := callTool_reaches called
    refine .leaf ?_ ⟨single.told, ?_, ?_, rfl, single.calls, ?_, ?_⟩ ?_
    all_goals try (rw [same])
    · simp [Utterance.spoken?]
    · intro record ofKind written ended
      refine accounts_of_call (ofKind ▸ caller) (noted record written) registered ?_
      exact single.runs.imp_right (And.imp_right fun _ => not_ended ended)

theorem assistant_registered {name : String} {tool : Tool}
    (found : assistant setup = .ok (name, tool)) :
    setup.catalogue.get? name = some tool := by
  simp only [assistant] at found
  split at found
  · rename_i named first
    obtain rfl := Except.ok.inj found
    obtain ⟨candidate, -, listed⟩ := List.exists_of_findSome?_eq_some first
    obtain ⟨registered, got, same⟩ := Option.map_eq_some_iff.mp listed
    obtain ⟨rfl, rfl⟩ := Prod.mk.inj same
    exact got
  · cases found

theorem get?_of_require {catalogue : Catalogue} {name : String} {tool : Tool}
    (found : catalogue.require name = .ok tool) :
    catalogue.get? name = some tool := by
  unfold Catalogue.require at found
  split at found
  · rename_i registered
    exact Except.ok.inj found ▸ registered
  · cases found

theorem ask_isLeaf (setup : Setup) (prompt : Expr) (options : List (String × Expr)) :
    IsLeaf setup .ask (execAsk setup prompt options) := by
  intro old p before asked result after begun reached
  rcases execAsk_reaches reached with ⟨text, values, name, tool, -, -, found, called⟩ |
    ⟨rfl, rfl, stop, rfl, -⟩
  · rw [summarized_of_begun begun] at called
    refine fills_of_call (.inl rfl) ?_ (assistant_registered found)
      (fun answer => bind_onlyBinds _ _) called
    simp [Redaction.event, Redaction.field, Redaction.promptFields, Entries.get?]
  · exact fills_idle begun (.refl _)

theorem call_isLeaf (setup : Setup) (name : String) (args : List (String × Expr))
    (bindAs : Option String) :
    IsLeaf setup .call (execCall setup name args bindAs) := by
  intro old p before asked result after begun reached
  rcases execCall_reaches reached with ⟨tool, values, found, -, called⟩ | ⟨rfl, rfl, stop, rfl, -⟩
  · rw [summarized_of_begun begun] at called
    refine fills_of_call (.inr rfl) ?_ (get?_of_require found) (bindAnswer_onlyBinds bindAs) called
    simp [Redaction.event, Redaction.field, Redaction.promptFields, Entries.get?]
  · rw [summarized_of_begun begun]
    exact fills_idle rfl (by constructor <;> simp [Deeds.none])

/-- The deeds of a statement that calls the memory and does nothing else. -/
private theorem accounts_of_access {record : Step} (call : MemoryCall) {calls : List MemoryCall}
    (quiet : record.speaks = false ∧ record.runsTool = false) (due : record.usesMemory = true)
    (called : record.Called setup.slots call)
    (once : calls = [call] ∨ (calls = [] ∧ record.outcome ≠ .ok)) :
    record.Accounts setup.catalogue setup.slots ⟨[], [], calls⟩ := by
  refine ⟨.never fun _ => quiet.1, .never fun _ => quiet.2, ?_⟩
  rcases once with rfl | ⟨rfl, failed⟩
  · exact .once due called
  · exact .never fun ended => absurd ended failed

private theorem leaves_of_access {call : MemoryCall} {fails : Prop}
    (single : MemoryAccess.Single call asked fails)
    (kept : after.transcript = before.transcript ∧ after.output = before.output ∧
      after.bot = before.bot ∧
      after.handler = before.handler) : Leaves before asked after []
        ⟨[], [], memoryCalls asked⟩ where
  told := single.told
  transcript := by simp [kept.1]
  output := by simp [kept.2.1]
  runs := single.runs
  calls := rfl
  bot := kept.2.2.1
  handler := kept.2.2.2

/-- A statement that ends with a write to the memory. -/
private theorem fills_of_write {kind : StepKind} (call : MemoryCall)
    {summary : List (String × Value)}
    {env : Environment}
    (due : ∀ record : Step, record.kind = kind → record.summary = summary →
      (record.speaks = false ∧ record.runsTool = false) ∧ record.usesMemory = true ∧
      record.Called setup.slots call)
    (reached : Reaches (hosted (setup.memory.write call))
      { before with env := env, steps := opened old kind p summary } asked result after) :
    ∃ summary deeds, Fills setup old kind p before asked result after summary deeds .done := by
  obtain ⟨given, path, rfl, rfl⟩ := reaches_hosted.mp reached
  have single := MemoryAccess.write_path path
  refine ⟨summary, ⟨[], [], memoryCalls asked⟩,
    .leaf rfl (leaves_of_access single ⟨rfl, rfl, rfl, rfl⟩) ?_⟩
  intro record ofKind written ended
  obtain ⟨quiet, touches, called⟩ := due record ofKind written
  refine accounts_of_access call quiet touches called (single.calls.imp_right ?_)
  rintro ⟨missing, fault, rfl⟩
  exact ⟨missing, not_ended ended⟩

theorem set_isLeaf (setup : Setup) (name : String) (expr : Expr) :
    IsLeaf setup .set (execSet setup name expr) := by
  intro old p before asked result after begun reached
  simp only [execSet, bind, summarize, reaches_env_bind, reaches_evaluated_bind,
    reaches_modify_bind, begun, summarize_opened] at reached
  rcases reached with ⟨value, -, reached⟩ | ⟨stop, -, rfl, rfl, rfl⟩
  · cases kept : Entries.get? setup.slots name with
    | none =>
      simp only [kept] at reached
      obtain ⟨rfl, rfl, rfl⟩ := reaches_pure.mp reached
      refine ⟨_, .none, .leaf rfl (by constructor <;> simp [Deeds.none]) ?_⟩
      intro record kind written _
      refine ⟨.never ?_, .never ?_, .never ?_⟩ <;>
        simp [Step.speaks, Step.runsTool, Step.usesMemory, Step.isPersisted, kind,
          written, Entries.get?]
    | some slot =>
      simp only [kept] at reached
      refine fills_of_write _ ?_ reached
      intro record kind written
      refine ⟨by simp [Step.speaks, Step.runsTool, kind], ?_,
        .inr ⟨kind, name, slot, ?_, kept, rfl⟩⟩
      · simp [Step.usesMemory, Step.isPersisted, kind, written, Entries.get?]
      · simp [Step.noted?, written, Entries.get?]
  · exact fills_idle begun (.refl _)

theorem remember_isLeaf (setup : Setup) (key value : Expr) (mode : RememberMode) :
    IsLeaf setup .remember (execRemember setup key value mode) := by
  intro old p before asked result after begun reached
  simp only [execRemember, summarize, reaches_env_bind, reaches_evaluated_bind,
    reaches_checked_bind, reaches_modify_bind, begun, summarize_opened] at reached
  rcases reached with ⟨keyValue, -, ⟨text, -, ⟨item, -, reached⟩ | ⟨stop, -, rfl, rfl, rfl⟩⟩ |
    ⟨cause, -, rfl, rfl, rfl⟩⟩ | ⟨stop, -, rfl, rfl, rfl⟩
  · cases mode with
    | set =>
      refine fills_of_write (.set text item)
        (fun record kind written => ⟨?_, ?_, .inl ⟨kind, ?_, ?_⟩⟩) reached <;>
        simp [Step.speaks, Step.runsTool, Step.usesMemory, Step.noted?, kind, written, Entries.get?]
    | append =>
      refine fills_of_write (.append text item)
        (fun record kind written => ⟨?_, ?_, kind, ?_, ?_⟩) reached <;>
        simp [Step.speaks, Step.runsTool, Step.usesMemory, Step.noted?, kind, written, Entries.get?]
  all_goals exact fills_idle begun (.refl _)

theorem recollect_isLeaf (setup : Setup) (key : Expr) (bindAs : String) :
    IsLeaf setup .recollect (execRecollect setup key bindAs) := by
  intro old p before asked result after begun reached
  simp only [execRecollect, bind, summarize, reaches_env_bind, reaches_evaluated_bind,
    reaches_checked_bind, reaches_host_bind, reaches_modify_bind, reaches_modify] at reached
  rcases reached with
    ⟨keyValue, -, ⟨text, -, given, front, back, path, reached, rfl⟩ | ⟨cause, -, rfl, rfl, rfl⟩⟩ |
    ⟨stop, -, rfl, rfl, rfl⟩
  · have single := MemoryAccess.read_path path
    rcases reached with ⟨value, rfl, rfl, rfl, rfl⟩ | ⟨stop, rfl, rfl, rfl, rfl⟩
    · rw [List.append_nil]
      refine ⟨_, ⟨[], [], memoryCalls front⟩,
        .leaf (by simp only [begun]; exact summarize_opened ..)
        (leaves_of_access single ⟨rfl, rfl, rfl, rfl⟩) ?_⟩
      intro record kind written _
      refine accounts_of_access (.get text) ?_ ?_ ⟨kind, fun _ => ?_⟩ ?_
      · simp [Step.speaks, Step.runsTool, kind]
      · simp [Step.usesMemory, kind]
      · simp [Step.noted?, written, Entries.get?]
      · exact single.calls.imp_right (And.imp_right fun failed => absurd failed not_failed)
    · rw [List.append_nil]
      refine ⟨[], ⟨[], [], memoryCalls front⟩,
        .leaf begun (leaves_of_access single ⟨rfl, rfl, rfl, rfl⟩) ?_⟩
      intro record kind written ended
      have failed := not_ended ended
      refine accounts_of_access (.get text) ?_ ?_ ⟨kind, fun ok => absurd ok failed⟩ ?_
      · simp [Step.speaks, Step.runsTool, kind]
      · simp [Step.usesMemory, kind]
      · exact single.calls.imp_right (And.imp_right fun _ => failed)
  all_goals exact fills_idle begun (.refl _)

end Run

end BotScript
