import BotScript.Proofs.Run.Completion

/-! What programs read of the answer of a tool. An answer has three fields of its own and beside
them those of its data; where a name is among both its own field wins, in whatever way the name came
to be in the data. So every field that is read of the variable that a `call` bound can be told from
what the tool returned. -/

namespace BotScript

/-! ## Data as an object -/

namespace Datum

theorem toEntries_eq_map (entries : List (Key × Datum)) :
    toEntries entries = entries.map fun entry => (entry.1.shown, entry.2.toValue) := by
  induction entries with
  | nil => rfl
  | cons entry rest ih => rw [toEntries, ih, List.map_cons]

/-- Of several keys with one text the last one gives the value. -/
theorem get?_ofList_toEntries (entries : List (Key × Datum)) (field : String) :
    Entries.get? (Entries.ofList (toEntries entries)) field =
      (entries.filter (·.1.shown = field)).getLast?.map (·.2.toValue) := by
  rw [Entries.get?_ofList, toEntries_eq_map, List.filter_map, List.getLast?_map, Option.map_map]
  rfl

/-- What is made of data by way of its value is made of the value that it stands for. -/
theorem eq_of_map_convert {α : Type} {datum : Datum} {f : Value → α} {a : α}
    (given : datum.convert.map f = .ok a) :
    a = f datum.toValue := by
  unfold convert at given
  split at given
  · cases given
  · exact (Except.ok.inj given).symm

end Datum

/-! ## Fields -/

namespace ToolResult

/-- The fields that every answer has, whatever its data. -/
def ownFields : List String :=
  ["success", "output", "data"]

/-- The names of the fields of an answer with some data: those of the data, and behind them those of
its own that the data lacks. -/
def fieldNames (data : Option (List (String × Value))) : List String :=
  let given := Entries.keys (data.getD [])
  given ++ ownFields.filter (· ∉ given)

/-- A field of an answer: its own ones come before those of its data. -/
def field? (answer : ToolResult) : String → Option Value
  | "success" => some (.boolean answer.success)
  | "output" => some (.text answer.output)
  | "data" => some answer.dataValue
  | field => answer.data.bind (Entries.get? · field)

theorem field?_of_not_own (answer : ToolResult) {field : String} (other : field ∉ ownFields) :
    answer.field? field = answer.data.bind (Entries.get? · field) := by
  unfold field?
  split
  · exact absurd (by decide) other
  · exact absurd (by decide) other
  · exact absurd (by decide) other
  · rfl

/-- Reading a field of the value that programs see is looking it up in the answer. -/
theorem property_value (answer : ToolResult) (field label : String) :
    answer.value.property field label =
      match answer.field? field with
      | some found => .ok found
      | none => .error (.cause (.missingField field (fieldNames answer.data) label)) := by
  have own : Entries.Distinct [
      ("success", Value.boolean answer.success),
      ("output", .text answer.output),
      ("data", answer.dataValue)] := by
    simp [Entries.Distinct]
  have found : Entries.get? (Entries.putAll (answer.data.getD []) [
      ("success", .boolean answer.success),
      ("output", .text answer.output),
      ("data", answer.dataValue)]) field = answer.field? field := by
    -- its own fields are written behind the data, so the last of them is compared first
    simp only [Entries.putAll, List.foldl, Entries.get?_put]
    fun_cases field? answer field with
    | case1 => rfl
    | case2 => rfl
    | case3 => rfl
    | case4 _ success output data =>
      rw [if_neg (Ne.symm data), if_neg (Ne.symm output), if_neg (Ne.symm success)]
      cases answer.data <;> rfl
  rw [value, Value.property, Entries.keys_putAll own, found]
  cases answer.field? field <;> rfl

theorem read_value (answer : ToolResult) (field label : String) (q : Position) :
    (answer.value.property field label).mapError (Trouble.locate q) =
      match answer.field? field with
      | some found => .ok found
      | none => .error (.fault ⟨.missingField field (fieldNames answer.data) label, .of q⟩) := by
  rw [property_value]
  cases answer.field? field <;> rfl

/-- What reading fields of a success comes to that has some output and some data. -/
structure ReadsBack (read : String → Except Stop Value) (label : String) (q : Position)
    (output data : Datum) : Prop where
  success : read "success" = .ok (.boolean true)
  /-- A text is read as it is, other output as it is written out. -/
  text : read "output" = .ok (.text output.toValue.shown)
  /-- Data that is no object is read under the key of one, and no data as null. -/
  object : read "data" = .ok (((kept data.toValue).map .object).getD .null)
  /-- Any other field is read as the object has it. -/
  found : ∀ field ∉ ownFields, ∀ value,
    read field = .ok value ↔ ∃ entries, kept data.toValue = some entries ∧
      Entries.get? entries field = some value
  missing : ∀ field ∉ ownFields,
    (∃ fault, read field = .error (.fault fault) ∧ fault.cause.kind = .property) ↔
      ∀ entries, kept data.toValue = some entries → field ∉ Entries.keys entries
  /-- Nothing else goes wrong; the message offers the fields that there are. -/
  blamed : ∀ field stop, read field = .error stop →
    stop = .fault ⟨.missingField field (fieldNames (kept data.toValue)) label, .of q⟩
  /-- Keys that have one text are one field, with the value of the last of them. -/
  collided : ∀ entries, data = .mapping entries → ∀ field ∉ ownFields, ∀ value,
    read field = .ok value ↔
      (entries.filter (·.1.shown = field)).getLast?.map (·.2.toValue) = some value

/-- An answer reads back when its text and its entries are those of the output and the data. -/
theorem readsBack {answer : ToolResult} {output data : Datum} (success : answer.success = true)
    (text : answer.output = output.toValue.shown) (entries : answer.data = kept data.toValue)
    (label : String) (q : Position) :
    ReadsBack (fun field => (answer.value.property field label).mapError (Trouble.locate q)) label q
      output data := by
  have other {field : String} (apart : field ∉ ownFields) :
      answer.field? field = (kept data.toValue).bind (Entries.get? · field) := by
    rw [field?_of_not_own answer apart, entries]
  have found : ∀ field ∉ ownFields, ∀ value,
      (answer.value.property field label).mapError (Trouble.locate q) = .ok value ↔
        (kept data.toValue).bind (Entries.get? · field) = some value := by
    intro field apart value
    rw [read_value, other apart]
    cases (kept data.toValue).bind (Entries.get? · field) <;> simp
  exact {
    success := by
      rw [read_value, field?, success]
    text := by
      rw [read_value, field?, text]
    object := by
      rw [read_value, field?, dataValue, entries]
      cases kept data.toValue <;> rfl
    found := fun field apart value => (found field apart value).trans Option.bind_eq_some_iff
    missing := by
      intro field apart
      rw [read_value, other apart]
      cases kept data.toValue with
      | none => exact iff_of_true ⟨_, rfl, rfl⟩ nofun
      | some pairs =>
        have listed := Entries.get?_isSome_iff pairs field
        rw [Option.bind_some]
        cases looked : Entries.get? pairs field with
        | some value =>
          have known : field ∈ Entries.keys pairs := listed.mp (Option.isSome_of_eq_some looked)
          exact iff_of_false (by rintro ⟨fault, ⟨⟩, -⟩) fun absent => absent pairs rfl known
        | none =>
          have unknown : field ∉ Entries.keys pairs := by simp [← listed, looked]
          exact iff_of_true ⟨_, rfl, rfl⟩ (by rintro _ ⟨⟩; exact unknown)
    blamed := by
      intro field stop failed
      rw [read_value, entries] at failed
      cases looked : answer.field? field with
      | some value =>
        rw [looked] at failed
        cases failed
      | none =>
        rw [looked] at failed
        exact (Except.error.inj failed).symm
    collided := by
      rintro pairs rfl field apart value
      rw [found field apart value, ← Datum.get?_ofList_toEntries]
      rfl }

theorem Forms.readsBack {raw : Datum} {answer : ToolResult} (formed : Forms raw answer)
    (success : answer.success = true) :
    ∃ output data, Parts raw true output data ∧ ∀ label q,
      ReadsBack (fun field => (answer.value.property field label).mapError (Trouble.locate q)) label
        q output data := by
  obtain ⟨output, data, parts, shown, object⟩ := formed
  rw [success] at parts
  exact ⟨output, data, parts,
    ToolResult.readsBack success (Datum.eq_of_map_convert shown) (Datum.eq_of_map_convert object)⟩

end ToolResult

/-- A field of a variable is a field of its value, and a failure is blamed on the reading. -/
theorem Expr.evaluate_field {env : Environment} {name field : String} {value : Value}
    (p q : Position) (bound : env.get? name = some value) :
    (Expr.property (.reference name p) [field] q).evaluate env =
      (value.property field name).mapError (Trouble.locate q) := by
  have known : Expr.eval env (.reference name p) = .ok value := by
    rw [Expr.eval, Environment.resolve, bound]
    rfl
  have read : Expr.eval env (.property (.reference name p) [field] q) =
      value.property field name := by
    rw [Expr.eval, known]
    change (value.property field name >>= fun found => .ok found) = _
    cases value.property field name <;> rfl
  rw [Expr.evaluate, read]
  rfl

namespace Run

variable {σ : Type}

/-- The run may go on to a call, whose tool is there and whose arguments have values, and the work
that decides the call returns some data in time. -/
def CallReturns (setup : Setup) (name : String) (args : List (String × Expr)) (before : RunState)
    (host : Host σ) (world : σ) (raw : Datum) : Prop :=
  let looked := host.answer .observe world
  ¬looked.1.Over setup.deadline ∧ ∃ tool, setup.catalogue.require name = .ok tool ∧
    ∃ values, Expr.evaluateEntries before.env args = .ok values ∧
      let stint :=
        ToolCall.deciding ⟨tool, name, Entries.ofList values⟩ setup.deadline host looked.2
      stint.InTime setup.deadline ∧ stint.completion = .returned raw

theorem exec_call_completes {setup : Setup} {name target : String} {args : List (String × Expr)}
    {p : Position} {before : RunState} {host : Host σ} {world : σ} {env : Environment} :
    Completes (exec setup (.call name args (some target) p)) before host world env ↔
      ∃ raw answer, CallReturns setup name args before host world raw ∧
        ToolResult.ofDatum name raw = .ok answer ∧
        answer.success = true ∧ before.env.bind target answer.value = env := by
  rw [exec, recorded_completes, execCall_completes]
  simp only [(ToolCall.perform_verdict _ _ _ _ _).succeeds, CallReturns, ToolResult.ofDatum_eq_ok]
  constructor
  · rintro ⟨going, tool, known, values, given, answer,
      ⟨inTime, success, raw, returned, formed⟩, bound⟩
    exact ⟨raw, answer, ⟨going, tool, known, values, given, inTime, returned⟩, formed,
      success, bound⟩
  · rintro ⟨raw, answer, ⟨going, tool, known, values, given, inTime, returned⟩, formed,
      success, bound⟩
    exact ⟨going, tool, known, values, given, answer,
      ⟨inTime, success, raw, returned, formed⟩, bound⟩

/-- A call that binds its answer comes to its end just when its tool returns a success in good form
and in time; and whatever that was made of, the fields of the variable then read back. -/
theorem call_reads_back (setup : Setup) (name target : String) (args : List (String × Expr))
    (p : Position) (before : RunState) (host : Host σ) (world : σ) :
    let ended := (((exec setup (.call name args (some target) p)).outcome before).run host world).1
    (ended.1 = .ok () ↔ ∃ raw answer, CallReturns setup name args before host world raw ∧
      ToolResult.ofDatum name raw = .ok answer ∧ answer.success = true) ∧
    ∀ raw answer, CallReturns setup name args before host world raw →
      ToolResult.ofDatum name raw = .ok answer →
      answer.success = true → ∃ output data, ToolResult.Parts raw true output data ∧
        ∀ (spelling : String) (place q : Position),
          Environment.variableName spelling = Environment.variableName target →
          ToolResult.ReadsBack (fun field =>
            (Expr.property (.reference spelling place) [field] q).evaluate ended.2.env) spelling q
              output data := by
  have course (raw : Datum) (answer : ToolResult)
      (returns : CallReturns setup name args before host world raw)
      (formed : ToolResult.ofDatum name raw = .ok answer) (success : answer.success = true) :
      ∃ after last, ((exec setup (.call name args (some target) p)).outcome before).run host world =
        ((.ok (), after), last) ∧ after.env = before.env.bind target answer.value :=
    exec_call_completes.mpr ⟨raw, answer, returns, formed, success, rfl⟩
  intro ended
  refine ⟨⟨fun done => ?_, ?_⟩, ?_⟩
  · have completes : Completes (exec setup (.call name args (some target) p)) before host world
        ended.2.env :=
      ⟨ended.2, _, Prod.ext (Prod.ext done rfl) rfl, rfl⟩
    obtain ⟨raw, answer, returns, formed, success, -⟩ := exec_call_completes.mp completes
    exact ⟨raw, answer, returns, formed, success⟩
  · rintro ⟨raw, answer, returns, formed, success⟩
    obtain ⟨after, last, ran, -⟩ := course raw answer returns formed success
    exact congrArg (·.1.1) ran
  · intro raw answer returns formed success
    obtain ⟨after, last, ran, bound⟩ := course raw answer returns formed success
    have env : ended.2.env = before.env.bind target answer.value :=
      (congrArg (·.1.2.env) ran).trans bound
    obtain ⟨output, data, parts, reads⟩ :=
      ToolResult.Forms.readsBack (ToolResult.ofDatum_eq_ok.mp formed) success
    refine ⟨output, data, parts, fun spelling place q same => ?_⟩
    have known : ended.2.env.get? spelling = some answer.value := by
      rw [env, Environment.get?_bind, if_pos same.symm]
    simp only [Expr.evaluate_field place q known]
    exact reads spelling q

/-- A host at rest with one tool, which returns some data. -/
def answering (raw : Datum) : World :=
  .bare [{
    offer := ⟨some "lookup", none, true, "", none⟩
    handsBack := false
    handled := true
    actions := [{ Action.agreeable with ending := .returns raw }] }]

def answeringSetup : Setup where
  settings := .defaults
  redaction := ⟨true, true⟩
  metadata := .anonymous ""
  catalogue := .ofTools [⟨0, "lookup", none⟩]
  slots := []
  deadline := none
  connected := false

/-- The call of a tool returns whatever the tool does. -/
theorem callReturns_answering (raw : Datum) (before : RunState) :
    CallReturns answeringSetup "lookup" [] before World.host (answering raw) raw := by
  have going (moment : Moment) (calm : moment.cancelled = false) : ¬moment.Over none := by
    simp [Moment.Over, calm]
  exact ⟨going _ rfl, ⟨0, "lookup", none⟩, rfl, [], rfl, ⟨going _ rfl, going _ rfl⟩, rfl⟩

/-- An answer whose output is no text and whose data has fields of the answer itself among its keys
and two keys with one text. -/
def clashing : Datum := .mapping [
  (.text "success", .boolean true),
  (.text "output", .list [.integer 1, .null]),
  (.text "data", .mapping [
    (.integer 1, .text "first"),
    (.text "success", .boolean false),
    (.text "data", .integer 3),
    (.text "1", .text "second")])]

theorem clashing_reads_back :
    ∃ answer,
      (CallReturns answeringSetup "lookup" [] (.initial .empty) World.host
        (answering clashing) clashing ∧
      ToolResult.ofDatum "lookup" clashing = .ok answer ∧ answer.success = true) ∧
      let statement := exec answeringSetup (.call "lookup" [] (some "$x") ⟨1, 1⟩)
      let after := ((statement.outcome (.initial .empty)).run World.host (answering clashing)).1.2
      let read :=
        fun field => (Expr.property (.reference "x" ⟨2, 1⟩) [field] ⟨2, 1⟩).evaluate after.env
      read "success" = .ok (.boolean true) ∧ read "output" = .ok (.text "[1,null]") ∧
        read "1" = .ok (.text "second") ∧
        ∃ fault, read "id" = .error (.fault fault) ∧ fault.cause.kind = .property := by
  have returns := callReturns_answering clashing (.initial .empty)
  have accepted : ∃ answer, ToolResult.ofDatum "lookup" clashing = .ok answer ∧
      answer.success = true :=
    ⟨⟨true, _, _⟩, rfl, rfl⟩
  obtain ⟨answer, formed, success⟩ := accepted
  obtain ⟨output, data, parts, reads⟩ :=
    (call_reads_back answeringSetup "lookup" "$x" [] ⟨1, 1⟩ (.initial .empty)
    World.host (answering clashing)).2 clashing answer returns formed success
  have read := reads "x" ⟨2, 1⟩ ⟨2, 1⟩ (by decide)
  cases parts
  have written : (Datum.list [.integer 1, .null]).toValue.shown = "[1,null]" := by decide +kernel
  exact ⟨answer, ⟨returns, formed, success⟩, read.success,
    read.text.trans (congrArg (Except.ok ∘ Value.text) written),
    (read.collided _ rfl "1" (by decide) _).mpr rfl,
    (read.missing "id" (by decide)).mpr (by rintro _ ⟨⟩; decide)⟩

end Run

end BotScript
