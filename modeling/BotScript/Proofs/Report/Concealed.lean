import BotScript.Host.Scripted
import BotScript.Proofs.Run.Execution

/-! What records, the transcript and logs show of the arguments of a call. Under a sensitive name
they show a mark, so runs whose arguments differ only under such names look the same. This holds of
every `call`, and of the records and logs of prompts; the transcript shows the options of a prompt
under sensitive names as they are. -/

namespace BotScript

open Redaction (isSensitive mark)

namespace Redaction

/-- Named values with the same names, and with the same values but under sensitive names. -/
inductive Agree : List (String × Value) → List (String × Value) → Prop
  | nil : Agree [] []
  | cons {name : String} {value value' : Value} {rest rest' : List (String × Value)}
      (here : isSensitive name = false → value = value') (more : Agree rest rest') :
      Agree ((name, value) :: rest) ((name, value') :: rest')

namespace Agree

variable {values values' added added' : List (String × Value)} {name : String}
  {value value' : Value}

theorem put (agree : Agree values values') (here : isSensitive name = false → value = value') :
    Agree (Entries.put values name value) (Entries.put values' name value') := by
  induction agree with
  | nil => exact .cons here .nil
  | cons same more ih =>
    rw [Entries.put, Entries.put]
    split
    · rename_i found
      subst found
      exact .cons here more
    · exact .cons same ih

theorem putAll (agree : Agree values values') (more : Agree added added') :
    Agree (Entries.putAll values added) (Entries.putAll values' added') := by
  induction more generalizing values values' with
  | nil => exact agree
  | cons here _ ih => exact ih (agree.put here)

theorem refl (values : List (String × Value)) : Agree values values := by
  induction values with
  | nil => exact .nil
  | cons pair rest ih => exact .cons (fun _ => rfl) ih

theorem erase (agree : Agree values values') (name : String) :
    Agree (Entries.erase values name) (Entries.erase values' name) := by
  induction agree with
  | nil => exact .nil
  | cons here more ih =>
    rw [Entries.erase, Entries.erase]
    split
    · exact ih
    · exact .cons here ih

theorem append (agree : Agree values values') (more : Agree added added') :
    Agree (values ++ added) (values' ++ added') := by
  induction agree with
  | nil => exact more
  | cons here _ ih => exact .cons here ih

/-- Under a name that is not sensitive they have the same value. -/
theorem get? (agree : Agree values values') (plain : isSensitive name = false) :
    Entries.get? values name = Entries.get? values' name := by
  induction agree with
  | nil => rfl
  | cons here more ih =>
    rw [Entries.get?, Entries.get?, ih]
    split
    · rename_i found
      subst found
      rw [here plain]
    · rfl

/-- Where sensitive values are hidden they look the same. -/
theorem entries (agree : Agree values values') {redaction : Redaction}
    (hides : redaction.sensitive = true) :
    redaction.entries values = redaction.entries values' := by
  induction agree with
  | nil => rfl
  | cons here more ih =>
    simp only [Redaction.entries, List.map_cons, Redaction.entry, hides, Bool.true_and] at ih ⊢
    rw [ih]
    split
    · rfl
    · rename_i plain
      rw [here (Bool.not_eq_true _ ▸ plain)]

/-- Looked at as events they still agree. -/
theorem event (agree : Agree values values') (redaction : Redaction) :
    Agree (redaction.event values) (redaction.event values') := by
  induction agree with
  | nil => exact .nil
  | cons here more ih => exact .cons (fun plain => congrArg (redaction.field _) (here plain)) ih

end Agree

/-- A sensitive value is shown as a mark. -/
theorem get?_entries {redaction : Redaction} (hides : redaction.sensitive = true)
    {values : List (String × Value)} {name : String} (sensitive : isSensitive name = true)
    (member : name ∈ Entries.keys values) :
    Entries.get? (redaction.entries values) name = some (.text mark) := by
  induction values with
  | nil => cases member
  | cons pair rest ih =>
    obtain ⟨key, value⟩ := pair
    rw [entries, List.map_cons, Entries.get?]
    split
    · rename_i found
      subst found
      simp [entry, hides, sensitive]
    · rename_i other
      exact ih ((List.mem_cons.mp member).resolve_left (Ne.symm other))

/-- Values as host data are shown as the values are. -/
theorem mapping_ofEntries (redaction : Redaction) (values : List (String × Value)) :
    redaction.mapping (Datum.ofEntries values) = Datum.ofEntries (redaction.entries values) := by
  induction values with
  | nil => rfl
  | cons pair rest ih =>
    obtain ⟨name, value⟩ := pair
    have here : (if redaction.sensitive && isSensitive name then .text mark
        else Datum.ofValue value) =
        Datum.ofValue (redaction.entry name value) := by
      unfold entry
      split <;> rfl
    exact congrArg₂ List.cons (congrArg (Prod.mk (Datum.Key.text name)) here) ih

theorem field?_ofEntries (values : List (String × Value)) (name : String) :
    Datum.field? (Datum.ofEntries values) name = (Entries.get? values name).map Datum.ofValue := by
  induction values with
  | nil => rfl
  | cons pair rest ih =>
    obtain ⟨key, value⟩ := pair
    unfold Datum.field? at ih ⊢
    rw [Datum.ofEntries, Entries.get?, Entries.get?, ih]
    by_cases same : key = name <;> simp [same]

/-- The summary of a call as it is shown: only its arguments have something to hide. -/
theorem event_call (redaction : Redaction) (name : String) (args : List (String × Value))
    (bindAs : Option String) :
    redaction.event [("tool", .text name), ("args", .object args), ("bind_as", .ofText? bindAs)] =
      [("tool", .text name), ("args", .object (redaction.entries args)),
        ("bind_as", .ofText? bindAs)] := by
  cases bindAs <;> simp [event, field, promptFields, nestedFields, Value.ofText?]

end Redaction

/-! ## What a statement shows -/

/-- What a statement shows of a call: the summary in its record, the entry in the transcript, and
the lines that are logged before the call. -/
structure Shown where
  summary : List (String × Value)
  entry : Option Utterance
  lines : List LogLine

/-- The announcement of a call. -/
def Event.isStart : Event → Bool
  | toolStarting .. => true
  | _ => false

namespace Shown

/-- Wherever arguments are shown, those under sensitive names are shown as marks. -/
structure Masks (shown : Shown) (args : List (String × Value)) : Prop where
  summary : ∀ seen, Entries.get? shown.summary "args" = some (.object seen) →
      ∀ name ∈ Entries.keys args,
    isSensitive name = true → Entries.get? seen name = some (.text mark)
  entry : ∀ tool seen, shown.entry = some (.called tool seen) → ∀ name ∈ Entries.keys args,
    isSensitive name = true → Entries.get? seen name = some (.text mark)
  lines : ∀ line ∈ shown.lines, ∀ seen, .mapping seen ∈ line.args → ∀ name ∈ Entries.keys args,
    isSensitive name = true → Datum.field? seen name = some (.text mark)

end Shown

namespace ToolCall

/-- The name under which a call is logged. -/
def loggedName (call : ToolCall) : String :=
  if call.name = "" then call.tool.name else call.name

theorem callName_payload (call : ToolCall) (runId : String) :
    LogLine.callName call.tool.name (((call.announcement runId).payload?).getD []) =
      .text call.loggedName := by
  have void : (Datum.text call.name).isVoid = decide (call.name = "") := by
    by_cases empty : call.name = ""
    · rw [empty]
      rfl
    · rw [decide_eq_false empty]
      unfold Datum.isVoid
      split <;> simp_all
  change (if (Datum.text call.name).isVoid then Datum.text call.tool.name else .text call.name) = _
  rw [void, loggedName]
  by_cases empty : call.name = "" <;> simp [empty]

/-- The lines that are logged before a call show its arguments as they are shown elsewhere, if at
all. -/
theorem lines_announcement (call : ToolCall) (runId : String) (redaction : Redaction)
    (level : ToolLogging) :
    (call.announcement runId).logLines redaction level =
      match level with
      | .debug => [.tools "DEBUG" "Tool %s run=%s args=%s"
          [.text call.loggedName, .text runId,
            .mapping (Datum.ofEntries (redaction.entries call.args))]]
      | .info => [.tools "INFO" "Tool %s run=%s" [.text call.loggedName, .text runId]]
      | .quiet => [] := by
  have name := callName_payload call runId
  have lines : (call.announcement runId).logLines redaction level =
      LogLine.starting redaction level call.tool.name
        (((call.announcement runId).payload?).getD []) := rfl
  rw [lines]
  unfold LogLine.starting
  rw [name]
  cases level with
  | debug =>
    rw [← Redaction.mapping_ofEntries]
    rfl
  | info => rfl
  | quiet => rfl

end ToolCall

namespace Run

variable {setup : Setup} {level : ToolLogging} {kind : StepKind} {p : Position}
  {old : List Step} {index : Nat}
  {before after : RunState} {asked : List Exchange} {result : Except Stop Unit} {shown : Shown}
  {call : ToolCall}
  {values values' : List (String × Value)}

/-- What a statement shows of the call that it makes. -/
def shownOf (setup : Setup) (level : ToolLogging) (call : ToolCall)
    (summary seen : List (String × Value)) : Shown where
  summary := summary
  entry := some (.called call.name seen)
  lines := (call.announcement setup.metadata.runId).logLines setup.redaction level

/-- What a `call` shows whose arguments have these values. -/
def shownCall (setup : Setup) (level : ToolLogging) (name : String) (bindAs : Option String)
    (values : List (String × Value)) : Shown :=
  match setup.catalogue.require name with
  | .ok tool =>
    let args := Entries.ofList values
    shownOf setup level ⟨tool, name, args⟩
      (setup.redaction.event [("tool", .text name), ("args", .object args),
        ("bind_as", .ofText? bindAs)])
      (setup.redaction.entries args)
  | .error _ => ⟨[("tool", .text name), ("bind_as", .ofText? bindAs)], none, []⟩

/-- What a prompt with this text shows whose options have these values. -/
def shownAsk (setup : Setup) (level : ToolLogging) (text : String)
    (values : List (String × Value)) : Shown :=
  match assistant setup with
  | .ok (name, tool) =>
    let options := Entries.ofList values
    let args := promptArgs setup text options
    shownOf setup level ⟨tool, name, args⟩
      (setup.redaction.event [("tool", .text name), ("prompt", .text text),
        ("model", modelOf setup options)])
      (setup.redaction.event args)
  | .error _ => ⟨[], none, []⟩

/-- A statement has shown something of a call: there is its record, there may be an entry in the
transcript, and the lines are those about the calls that were announced. -/
structure Shows (setup : Setup) (level : ToolLogging) (before after : RunState) (shown : Shown) :
    Prop where
  record : ∃ record, after.steps = before.steps ++ [record] ∧ record.summary = shown.summary
  transcript : after.transcript = before.transcript ++ shown.entry.toList
  lines : ∃ news, after.journal = before.journal ++ news ∧
    (news.filter Event.isStart).flatMap (Event.logLines setup.redaction level) = shown.lines

/-- A statement has shown something of a call before the end of its record. -/
structure Displays (setup : Setup) (level : ToolLogging) (old : List Step) (kind : StepKind)
    (p : Position) (before after : RunState) (shown : Shown) : Prop where
  steps : after.steps = opened old kind p shown.summary
  transcript : after.transcript = before.transcript ++ shown.entry.toList
  lines : ∃ news, after.journal = before.journal ++ news ∧
    (news.filter Event.isStart).flatMap (Event.logLines setup.redaction level) = shown.lines

/-- The end of a record announces no call. -/
theorem finish_announces {outcome : StepOutcome}
    (reached : Reaches (finish index outcome) before asked result after) :
    ∃ news, after.journal = before.journal ++ news ∧ news.filter Event.isStart = [] := by
  obtain ⟨-, news, rfl, ⟨-, -, rfl⟩ | ⟨record, told, -, -, rfl⟩⟩ := finish_course reached
  · exact ⟨[], rfl, rfl⟩
  · cases told <;> exact ⟨_, rfl, rfl⟩

/-- What a statement shows before the end of its record it shows behind it. -/
theorem recorded_shows {statement : Nat → Run Unit}
    (inner : ∀ asked result after,
      Reaches (statement before.steps.length)
          { before with steps := opened before.steps kind p [] } asked result after →
        Displays setup level before.steps kind p before after shown)
    (reached : Reaches (recorded setup.deadline kind p statement) before asked result after) :
    after = before ∨ Shows setup level before after shown := by
  rcases recorded_reaches reached with ⟨-, -, rfl⟩ |
    ⟨_, _, _, _, middle, -, -, performed, finished, -⟩
  · exact .inl rfl
  · obtain ⟨begun, transcript, news, journal, lines⟩ := inner _ _ _ performed
    obtain ⟨-, steps, leaves⟩ := finish_reaches (begun.trans (List.append_nil _).symm) finished
    obtain ⟨late, ended, silent⟩ := finish_announces finished
    refine .inr ⟨⟨_, steps, rfl⟩, ?_, news ++ late, ?_, ?_⟩
    · rw [leaves.transcript, transcript]
      simp [Deeds.none]
    · rw [ended, journal, List.append_assoc]
    · rw [List.filter_append, silent, List.append_nil, lines]

/-- The call of a tool is announced, and then its end is told. -/
theorem callTool_announces {result : Except Stop ToolResult}
    (reached : Reaches (callTool setup call) before asked result after) :
    ∃ ended, after = { before with
      journal := before.journal ++ [call.announcement setup.metadata.runId] ++
        [call.ending ended] } := by
  simp only [callTool, tell, reaches_modify_bind, reaches_host_bind] at reached
  obtain ⟨ended, _, _, -, rest, -⟩ := reached
  refine ⟨ended, ?_⟩
  cases given : ended.result with
  | ok value =>
    rw [given] at rest
    exact (reaches_pure.mp rest).2.2
  | error fault =>
    rw [given] at rest
    exact (reaches_throw.mp rest).2.2

/-- A statement that has written its summary, notes its call and makes it. -/
theorem displays_of_call {summary seen : List (String × Value)} {next : ToolResult → Run Unit}
    (binds : ∀ answer, OnlyBinds (next answer))
    (reached : Reaches (callTool setup call >>= next)
      { before with
        steps := opened old kind p summary
        transcript := before.transcript ++ [.called call.name seen] }
      asked result after) :
    Displays setup level old kind p before after (shownOf setup level call summary seen) := by
  have lines : ∀ ended,
      ([call.announcement setup.metadata.runId, call.ending ended].filter Event.isStart).flatMap
      (Event.logLines setup.redaction level) =
        (call.announcement setup.metadata.runId).logLines setup.redaction level :=
    fun _ => List.append_nil _
  rcases reaches_bind.mp reached with ⟨answer, _, middle, _, called, bound, -⟩ | ⟨stop, called, -⟩
  · obtain ⟨-, -, same⟩ := binds answer _ _ _ _ bound
    obtain ⟨ended, rfl⟩ := callTool_announces called
    rw [same]
    exact ⟨rfl, rfl, _, List.append_assoc .., lines ended⟩
  · obtain ⟨ended, rfl⟩ := callTool_announces called
    exact ⟨rfl, rfl, _, List.append_assoc .., lines ended⟩

theorem call_shows {name : String} {args : List (String × Expr)} {bindAs : Option String}
    (evaluated : Expr.evaluateEntries before.env args = .ok values)
    (reached : Reaches (exec setup (.call name args bindAs p)) before asked result after) :
    after = before ∨ Shows setup level before after (shownCall setup level name bindAs values) := by
  rw [exec] at reached
  refine recorded_shows (fun during kept middle performed => ?_) reached
  unfold shownCall
  rcases execCall_reaches performed with ⟨tool, _, found, same, called⟩ |
    ⟨-, rfl, stop, -, ⟨cause, refused, -⟩ | ⟨_, -, impossible⟩⟩
  · obtain rfl := Except.ok.inj (evaluated.symm.trans same)
    rw [found]
    rw [summarized_of_begun rfl] at called
    exact displays_of_call (bindAnswer_onlyBinds bindAs) called
  · rw [refused, summarized_of_begun rfl]
    exact ⟨rfl, (List.append_nil _).symm, [], (List.append_nil _).symm, rfl⟩
  · cases evaluated.symm.trans impossible

theorem ask_shows {prompt : Expr} {options : List (String × Expr)} {text : String}
    (rendered : prompt.render before.env = .ok text)
    (evaluated : Expr.evaluateEntries before.env options = .ok values)
    (reached : Reaches (exec setup (.ask prompt options p)) before asked result after) :
    after = before ∨ Shows setup level before after (shownAsk setup level text values) := by
  rw [exec] at reached
  refine recorded_shows (fun during kept middle performed => ?_) reached
  unfold shownAsk
  rcases execAsk_reaches performed with ⟨_, _, name, tool, same, same', found, called⟩ |
    ⟨-, rfl, stop, -, impossible | impossible | ⟨cause, refused, -⟩⟩
  · obtain rfl := Except.ok.inj (rendered.symm.trans same)
    obtain rfl := Except.ok.inj (evaluated.symm.trans same')
    rw [found]
    rw [summarized_of_begun rfl] at called
    exact displays_of_call (fun _ => bind_onlyBinds _ _) called
  · cases rendered.symm.trans impossible
  · cases evaluated.symm.trans impossible
  · rw [refused]
    exact ⟨rfl, (List.append_nil _).symm, [], (List.append_nil _).symm, rfl⟩

/-! ## Two evaluations -/

/-- What the assistant gets beside the prompt and the options of the program. -/
def promptExtras (setup : Setup) (options : List (String × Value)) : List (String × Value) :=
  (if (modelOf setup options).isNull then [] else [("model", modelOf setup options)]) ++
    match setup.metadata.systemPrompt with
    | none => []
    | some system => if system = "" then [] else [("system", .text system)]

theorem promptArgs_eq (setup : Setup) (text : String) (options : List (String × Value)) :
    promptArgs setup text options =
      Entries.putAll [("prompt", .text text)]
        (Entries.erase options "model" ++ promptExtras setup options) := by
  unfold promptArgs promptExtras Entries.putAll
  rw [List.foldl_append, List.foldl_append]
  by_cases absent : (modelOf setup options).isNull = true
  · cases setup.metadata.systemPrompt with
    | none => simp [absent]
    | some system => by_cases empty : system = "" <;> simp [absent, empty]
  · cases setup.metadata.systemPrompt with
    | none => simp [absent]
    | some system => by_cases empty : system = "" <;> simp [absent, empty]

/-- The assistant gets all options but the model. -/
theorem mem_keys_promptArgs {text name : String} {options : List (String × Value)}
    (member : name ∈ Entries.keys options) (other : name ≠ "model") :
    name ∈ Entries.keys (promptArgs setup text options) := by
  rw [promptArgs_eq, Entries.mem_keys_putAll, Entries.keys, Entries.keys, List.map_append,
    List.mem_append]
  refine .inr (.inl ?_)
  change name ∈ Entries.keys (Entries.erase options "model")
  rw [Entries.keys_erase]
  simpa using ⟨member, other⟩

theorem modelOf_agree {options options' : List (String × Value)}
    (agree : Redaction.Agree options options') :
    modelOf setup options = modelOf setup options' := by
  have plain : isSensitive "model" = false := by decide
  unfold modelOf
  rw [agree.get? plain]

theorem promptArgs_agree {text : String} {options options' : List (String × Value)}
    (agree : Redaction.Agree options options') :
    Redaction.Agree (promptArgs setup text options) (promptArgs setup text options') := by
  rw [promptArgs_eq, promptArgs_eq]
  unfold promptExtras
  rw [modelOf_agree agree]
  exact (Redaction.Agree.refl _).putAll ((agree.erase "model").append (.refl _))

theorem lines_agree {tool : Tool} {name runId : String} {redaction : Redaction}
    {args args' : List (String × Value)} (hides : redaction.sensitive = true)
    (agree : Redaction.Agree args args') :
    ((⟨tool, name, args⟩ : ToolCall).announcement runId).logLines redaction level =
      ((⟨tool, name, args'⟩ : ToolCall).announcement runId).logLines redaction level := by
  rw [ToolCall.lines_announcement, ToolCall.lines_announcement, agree.entries hides]
  rfl

theorem shownCall_agree {name : String} {bindAs : Option String}
    (hides : setup.redaction.sensitive = true)
    (agree : Redaction.Agree (Entries.ofList values) (Entries.ofList values')) :
    shownCall setup level name bindAs values' = shownCall setup level name bindAs values := by
  unfold shownCall
  cases setup.catalogue.require name with
  | error cause => rfl
  | ok tool =>
    dsimp only [shownOf]
    rw [Redaction.event_call, Redaction.event_call, agree.entries hides, lines_agree hides agree]

/-- The lines that are logged before a call show its arguments behind marks. -/
theorem masked_of_lines (hides : setup.redaction.sensitive = true) {line : LogLine}
    (member : line ∈ (call.announcement setup.metadata.runId).logLines setup.redaction level)
    {seen : List (Datum.Key × Datum)} (among : .mapping seen ∈ line.args) {name : String}
    (listed : name ∈ Entries.keys call.args) (sensitive : isSensitive name = true) :
    Datum.field? seen name = some (.text mark) := by
  rw [ToolCall.lines_announcement] at member
  cases level with
  | debug =>
    obtain rfl := List.mem_singleton.mp member
    have same : seen = Datum.ofEntries (setup.redaction.entries call.args) := by
      simpa [LogLine.tools] using among
    rw [same, Redaction.field?_ofEntries, Redaction.get?_entries hides sensitive listed]
    rfl
  | info =>
    obtain rfl := List.mem_singleton.mp member
    simp [LogLine.tools] at among
  | quiet => cases member

/-- A `call` shows no argument under a sensitive name. -/
theorem shownCall_masks {name : String} {bindAs : Option String}
    (hides : setup.redaction.sensitive = true) :
    (shownCall setup level name bindAs values).Masks (Entries.ofList values) := by
  unfold shownCall
  cases setup.catalogue.require name with
  | error cause => exact ⟨nofun, nofun, nofun⟩
  | ok tool =>
    refine ⟨fun seen found name listed sensitive => ?_,
      fun tool seen found name listed sensitive => ?_,
      fun line member seen among name listed sensitive => ?_⟩
    · dsimp only [shownOf] at found
      rw [Redaction.event_call] at found
      obtain rfl := Value.object.inj (Option.some.inj found)
      exact Redaction.get?_entries hides sensitive listed
    · obtain ⟨-, rfl⟩ := Utterance.called.inj (Option.some.inj found)
      exact Redaction.get?_entries hides sensitive listed
    · exact masked_of_lines hides member among listed sensitive

/-- The record and the logs of a prompt are the same, and the transcript differs at most under
sensitive names. -/
theorem shownAsk_agree (level : ToolLogging) (text : String)
    (hides : setup.redaction.sensitive = true)
    (agree : Redaction.Agree (Entries.ofList values) (Entries.ofList values')) :
    (shownAsk setup level text values').summary = (shownAsk setup level text values).summary ∧
      (shownAsk setup level text values').lines = (shownAsk setup level text values).lines ∧
      ∀ tool seen, (shownAsk setup level text values).entry = some (.called tool seen) →
        ∃ seen', (shownAsk setup level text values').entry = some (.called tool seen') ∧
          Redaction.Agree seen seen' := by
  unfold shownAsk
  cases assistant setup with
  | error cause => exact ⟨rfl, rfl, nofun⟩
  | ok named =>
    obtain ⟨name, tool⟩ := named
    dsimp only [shownOf]
    refine ⟨?_, ?_, fun tool seen same => ?_⟩
    · rw [modelOf_agree agree]
    · exact (lines_agree hides (promptArgs_agree agree)).symm
    · obtain ⟨rfl, rfl⟩ := Utterance.called.inj (Option.some.inj same)
      exact ⟨_, rfl, (promptArgs_agree agree).event _⟩

/-- But for the transcript, a prompt shows no option under a sensitive name. -/
theorem shownAsk_masks {text : String} (hides : setup.redaction.sensitive = true) :
    ({ shownAsk setup level text values with entry := none } : Shown).Masks
      (Entries.ofList values) := by
  unfold shownAsk
  cases assistant setup with
  | error cause => exact ⟨nofun, nofun, nofun⟩
  | ok named =>
    obtain ⟨name, tool⟩ := named
    refine ⟨fun seen found => ?_, nofun, fun line member seen among name listed sensitive => ?_⟩
    · simp [shownOf, Redaction.event, Entries.get?] at found
    · refine masked_of_lines hides member among (mem_keys_promptArgs listed ?_) sensitive
      rintro rfl
      exact absurd sensitive (by decide)

/-- With sensitive values hidden, two runs of one statement whose arguments agree but under
sensitive names show the same, if they get to it. A `call` shows the same everywhere and has a mark
in the place of each such argument; a prompt shows the same in its record and in the logs, behind
marks, and its entries in the transcript agree but under sensitive names. -/
theorem exec_conceals (hides : setup.redaction.sensitive = true) (level : ToolLogging)
    {before' after' : RunState} {asked' : List Exchange} {result' : Except Stop Unit}
    (agree : Redaction.Agree (Entries.ofList values) (Entries.ofList values')) :
    (∀ name args bindAs p, Expr.evaluateEntries before.env args = .ok values →
      Expr.evaluateEntries before'.env args = .ok values' →
      Reaches (exec setup (.call name args bindAs p)) before asked result after →
      Reaches (exec setup (.call name args bindAs p)) before' asked' result' after' →
        ∃ shown : Shown, (after = before ∨ Shows setup level before after shown) ∧
          (after' = before' ∨ Shows setup level before' after' shown) ∧
          shown.Masks (Entries.ofList values)) ∧
    ∀ prompt options p text, prompt.render before.env = .ok text →
      prompt.render before'.env = .ok text →
      Expr.evaluateEntries before.env options = .ok values →
      Expr.evaluateEntries before'.env options = .ok values' →
      Reaches (exec setup (.ask prompt options p)) before asked result after →
      Reaches (exec setup (.ask prompt options p)) before' asked' result' after' →
        ∃ shown shown' : Shown, (after = before ∨ Shows setup level before after shown) ∧
          (after' = before' ∨ Shows setup level before' after' shown') ∧
          shown'.summary = shown.summary ∧ shown'.lines = shown.lines ∧
          ({ shown with entry := none } : Shown).Masks (Entries.ofList values) ∧
          ∀ tool seen, shown.entry = some (.called tool seen) →
            ∃ seen', shown'.entry = some (.called tool seen') ∧ Redaction.Agree seen seen' := by
  constructor
  · intro name args bindAs p evaluated evaluated' reached reached'
    have other : after' = before' ∨ Shows setup level before' after' _ :=
      call_shows evaluated' reached'
    rw [shownCall_agree hides agree] at other
    exact ⟨_, call_shows evaluated reached, other, shownCall_masks hides⟩
  · intro prompt options p text rendered rendered' evaluated evaluated' reached reached'
    obtain ⟨summary, lines, entry⟩ := shownAsk_agree level text hides agree
    exact ⟨_, _, ask_shows rendered evaluated reached, ask_shows rendered' evaluated' reached',
      summary, lines,
      shownAsk_masks hides, entry⟩

def secretiveSetup : Setup where
  settings := .defaults
  redaction := ⟨true, true⟩
  metadata := .anonymous ""
  catalogue := ⟨[("ai.respond", ⟨0, "ai.respond", none⟩)]⟩
  slots := []
  deadline := none
  connected := false

/-- A state with a text that may be a secret. -/
def secretiveStart (secret : String) : RunState := .initial ⟨[("x", .text secret)]⟩

def secretiveArgs : List (String × Expr) :=
  [("E-Mail", .literal .null ⟨1, 1⟩), ("Email", .reference "x" ⟨1, 1⟩)]

def secretiveCall : Stmt := .call "ai.respond" secretiveArgs none ⟨1, 1⟩

def secretivePrompt : Stmt := .ask (.literal (.text "hi") ⟨1, 1⟩) secretiveArgs ⟨1, 1⟩

def secretiveValues (secret : String) : List (String × Value) :=
  [("E-Mail", .null), ("Email", .text secret)]

theorem secretive_agree :
    Redaction.Agree (Entries.ofList (secretiveValues "a@b.c"))
      (Entries.ofList (secretiveValues "d@e.f")) := by
  refine .cons (fun _ => rfl) (.cons (fun plain => ?_) .nil)
  exact absurd plain (by decide)

/-- How a statement of these ends when nothing does the work of its tool. -/
def secretiveEnd (stmt : Stmt) (secret : String) : Except Stop Unit × RunState :=
  (((exec secretiveSetup stmt).outcome (secretiveStart secret)).run World.host (.bare [])).1

theorem secretiveEnd_reached (stmt : Stmt) (secret : String) :
    ∃ asked,
      Reaches (exec secretiveSetup stmt) (secretiveStart secret) asked (secretiveEnd stmt secret).1
      (secretiveEnd stmt secret).2 :=
  ⟨_, Dialogue.run_path World.host
    ((exec secretiveSetup stmt).outcome (secretiveStart secret)) (.bare [])⟩

theorem secretiveEnd_moved {stmt : Stmt} {secret : String}
    (noted : (secretiveEnd stmt secret).2.transcript.length = 1) :
    (secretiveEnd stmt secret).2 ≠ secretiveStart secret := by
  intro same
  rw [same] at noted
  cases noted

theorem secretiveCall_conceals : ∃ shown : Shown,
    Shows secretiveSetup .debug (secretiveStart "a@b.c")
        (secretiveEnd secretiveCall "a@b.c").2 shown ∧
      Shows secretiveSetup .debug (secretiveStart "d@e.f")
        (secretiveEnd secretiveCall "d@e.f").2 shown ∧
      shown.Masks (secretiveValues "a@b.c") := by
  obtain ⟨asked, reached⟩ := secretiveEnd_reached secretiveCall "a@b.c"
  obtain ⟨asked', reached'⟩ := secretiveEnd_reached secretiveCall "d@e.f"
  obtain ⟨shown, first, second, masks⟩ :=
    (exec_conceals rfl .debug secretive_agree).1 "ai.respond" secretiveArgs none
    ⟨1, 1⟩ rfl rfl reached reached'
  refine ⟨shown, first.resolve_left (secretiveEnd_moved ?_),
    second.resolve_left (secretiveEnd_moved ?_), masks⟩
  · decide +kernel
  · decide +kernel

theorem secretivePrompt_transcript {secret : String}
    (noted : (secretiveEnd secretivePrompt secret).2.transcript.length = 1) :
    (secretiveEnd secretivePrompt secret).2.transcript =
      [.called "ai.respond" [("prompt", .text mark), ("E-Mail", .null),
        ("Email", .text secret)]] := by
  obtain ⟨asked, reached⟩ := secretiveEnd_reached secretivePrompt secret
  have shows : _ ∨ Shows secretiveSetup .debug (secretiveStart secret)
      (secretiveEnd secretivePrompt secret).2
      (shownAsk secretiveSetup .debug "hi" (secretiveValues secret)) := ask_shows rfl rfl reached
  exact (shows.resolve_left (secretiveEnd_moved noted)).transcript

/-- The transcript shows the option of a prompt under a sensitive name, so it tells two runs apart
that differ in nothing else. -/
theorem secretivePrompt_reveals :
    secretiveSetup.redaction = ⟨true, true⟩ ∧ isSensitive "Email" = true ∧
      Redaction.Agree (Entries.ofList (secretiveValues "a@b.c"))
        (Entries.ofList (secretiveValues "d@e.f")) ∧
      (∀ secret ∈ ["a@b.c", "d@e.f"],
        Expr.evaluateEntries (secretiveStart secret).env secretiveArgs =
            .ok (secretiveValues secret) ∧
          (∃ asked, Reaches (exec secretiveSetup secretivePrompt) (secretiveStart secret) asked
            (secretiveEnd secretivePrompt secret).1 (secretiveEnd secretivePrompt secret).2) ∧
          (secretiveEnd secretivePrompt secret).2.transcript =
            [.called "ai.respond" [("prompt", .text mark), ("E-Mail", .null),
              ("Email", .text secret)]]) ∧
      (secretiveEnd secretivePrompt "a@b.c").2.transcript ≠
        (secretiveEnd secretivePrompt "d@e.f").2.transcript := by
  have first := @secretivePrompt_transcript "a@b.c" (by decide +kernel)
  have second := @secretivePrompt_transcript "d@e.f" (by decide +kernel)
  refine ⟨rfl, by decide, secretive_agree, ?_, ?_⟩
  · refine List.forall_mem_cons.mpr ⟨⟨rfl, secretiveEnd_reached _ _, first⟩,
      List.forall_mem_singleton.mpr ?_⟩
    exact ⟨rfl, secretiveEnd_reached _ _, second⟩
  · rw [first, second]
    simp

end Run

end BotScript
