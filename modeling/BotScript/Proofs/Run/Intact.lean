import BotScript.Host.Scripted
import BotScript.Proofs.Run.Execution

/-! What a statement leaves behind when it fails. Nothing is said and no variable changes, but for
one way of failing: a `set` whose value the memory does not take has bound the variable already. The
transcript has at most one entry more, the call of a statement that had found its tool and all its
arguments. -/

namespace BotScript

/-- The same dialogue does not come to different ends with the same answers. -/
theorem Dialogue.Path.unique {α : Type} {d : Dialogue α} {asked more : List Exchange} {a b : α}
    (path : d.Path asked a) (other : d.Path more b) (begins : asked <+: more) :
    asked = more ∧ a = b := by
  induction path generalizing more with
  | done a =>
    obtain ⟨rfl, rfl⟩ := path_done_iff.mp other
    exact ⟨rfl, rfl⟩
  | ask later ih =>
    obtain ⟨answer, rest, further, rfl⟩ := path_ask_iff.mp other
    obtain ⟨same, remains⟩ := List.cons_prefix_cons.mp begins
    cases same
    obtain ⟨rfl, rfl⟩ := ih further remains
    exact ⟨rfl, rfl⟩

namespace Run

/-- Between two states nothing is said, no variable changes, and the transcript gets some
entries. -/
structure Spares (before : RunState) (entries : List Utterance) (after : RunState) : Prop where
  output : after.output = before.output
  env : after.env = before.env
  transcript : after.transcript = before.transcript ++ entries

end Run

namespace Stmt

/-- The call that a statement notes in the transcript. By then all its expressions have values, and
its tool is there. -/
inductive Notes (setup : Setup) (env : Environment) : Stmt → Utterance → Prop
  | ask {prompt : Expr} {options : List (String × Expr)} {p : Position}
      {text name : String} {tool : Tool} {values : List (String × Value)}
      (rendered : prompt.render env = .ok text)
      (evaluated : Expr.evaluateEntries env options = .ok values)
      (found : Run.assistant setup = .ok (name, tool)) :
      Notes setup env (.ask prompt options p)
        (.called name (setup.redaction.event (Run.promptArgs setup text (Entries.ofList values))))
  | call {name : String} {args : List (String × Expr)} {bindAs : Option String}
      {p : Position} {tool : Tool} {values : List (String × Value)}
      (found : setup.catalogue.require name = .ok tool)
      (evaluated : Expr.evaluateEntries env args = .ok values) :
      Notes setup env (.call name args bindAs p)
        (.called name (setup.redaction.entries (Entries.ofList values)))

/-- A `set` of a declared variable was started and its expression has a value, which the memory does
not take. -/
inductive WriteFails (setup : Setup) (before : RunState) :
    Stmt → List Exchange → String → Value → Prop
  | set {name : String} {expr : Expr} {p : Position} {value : Value} {slot : Slot} {fault : Fault}
      {front during back : List Exchange}
      (started : Run.Reaches (Run.checkpoint setup.deadline) before front (.ok ()) before)
      (evaluated : expr.evaluate before.env = .ok value)
      (declared : Entries.get? setup.slots name = some slot)
      (refused : (setup.memory.write (.set slot.key value)).Path during (.error fault)) :
      WriteFails setup before (.set name expr p) (front ++ (during ++ back)) name value

/-- What a statement that has failed leaves of the state before it. -/
structure Intact (setup : Setup) (stmt : Stmt) (before : RunState) (asked : List Exchange)
    (after : RunState) : Prop where
  output : after.output = before.output
  env : (∀ name value, ¬stmt.WriteFails setup before asked name value) → after.env = before.env
  kept : ∀ name value, stmt.WriteFails setup before asked name value →
      after.env = before.env.bind name value
  transcript : after.transcript = before.transcript ∨
    ∃ entry, stmt.Notes setup before.env entry ∧ after.transcript = before.transcript ++ [entry]

end Stmt

namespace Run

variable {setup : Setup} {stmt : Stmt} {before middle after : RunState} {asked : List Exchange}
  {result : Except Stop Unit}
  {stop : Stop} {index : Nat} {entries : List Utterance}

namespace Spares

theorem refl (state : RunState) : Spares state [] state :=
  ⟨rfl, rfl, (List.append_nil _).symm⟩

theorem trans (first : Spares before entries middle) (second : Spares middle [] after) :
    Spares before entries after where
  output := second.output.trans first.output
  env := second.env.trans first.env
  transcript := by rw [second.transcript, List.append_nil, first.transcript]

end Spares

/-- The end of a record changes nothing but the record and what is told. -/
theorem finish_spares {outcome : StepOutcome}
    (reached : Reaches (finish index outcome) before asked result after) :
    Spares before [] after := by
  obtain ⟨-, news, rfl, -⟩ := finish_course reached
  exact ⟨rfl, rfl, (List.append_nil _).symm⟩

private theorem error_of_locate {kept : Except Stop Unit} {p : Position}
    (failed : .error stop = kept.mapError (Stop.locate p)) :
    ∃ failure, kept = .error failure := by
  cases kept with
  | ok _ => cases failed
  | error failure => exact ⟨failure, rfl⟩

/-! ## Statements, one by one -/

/-- A statement other than a `set` spares the state when it fails, and notes its call at most. -/
def Sparing (setup : Setup) (stmt : Stmt) (statement : Nat → Run Unit) : Prop :=
  ∀ index before asked stop after, Reaches (statement index) before asked (.error stop) after →
    Spares before [] after ∨ ∃ entry,
      stmt.Notes setup before.env entry ∧ Spares before [entry] after

theorem say_sparing (expr : Expr) (p : Position) :
    Sparing setup (.say expr p) (execSay setup expr) := by
  intro index before asked stop after reached
  simp only [execSay, say, summarize, reaches_env_bind, reaches_evaluated_bind, reaches_modify_bind,
    reaches_modify] at reached
  rcases reached with ⟨text, -, -, impossible, -⟩ | ⟨_, -, -, -, rfl⟩
  · cases impossible
  · exact .inl (.refl _)

/-- A part that comes behind the call of a tool and does not fail itself. -/
theorem callTool_bind_fails {call : ToolCall} {next : ToolResult → Run Unit}
    (binds : ∀ answer, OnlyBinds (next answer))
    (reached : Reaches (callTool setup call >>= next) before asked (.error stop) after) :
    after = { before with journal := after.journal } := by
  rcases reaches_bind.mp reached with ⟨answer, _, _, _, -, bound, -⟩ | ⟨_, called, -⟩
  · cases (binds answer _ _ _ _ bound).2.1
  · exact (callTool_reaches called).2

theorem ask_sparing (prompt : Expr) (options : List (String × Expr)) (p : Position) :
    Sparing setup (.ask prompt options p) (execAsk setup prompt options) := by
  intro index before asked stop after reached
  rcases execAsk_reaches reached with
    ⟨text, values, name, tool, rendered, evaluated, found, called⟩ | ⟨-, rfl, -⟩
  · rw [callTool_bind_fails (fun _ => bind_onlyBinds _ _) called]
    exact .inr ⟨_, .ask rendered evaluated found, rfl, rfl, rfl⟩
  · exact .inl (.refl _)

theorem call_sparing (name : String) (args : List (String × Expr)) (bindAs : Option String)
    (p : Position) :
    Sparing setup (.call name args bindAs p) (execCall setup name args bindAs) := by
  intro index before asked stop after reached
  rcases execCall_reaches reached with ⟨tool, values, found, evaluated, called⟩ | ⟨-, rfl, -⟩
  · rw [callTool_bind_fails (bindAnswer_onlyBinds bindAs) called]
    exact .inr ⟨_, .call found evaluated, rfl, rfl, rfl⟩
  · exact .inl ⟨rfl, rfl, (List.append_nil _).symm⟩

theorem remember_sparing (key value : Expr) (mode : RememberMode) (p : Position) :
    Sparing setup (.remember key value mode p) (execRemember setup key value mode) := by
  intro index before asked stop after reached
  simp only [execRemember, summarize, reaches_env_bind, reaches_evaluated_bind,
    reaches_checked_bind, reaches_modify_bind] at reached
  rcases reached with ⟨_, -, ⟨_, -, ⟨_, -, written⟩ | ⟨_, -, -, -, rfl⟩⟩ | ⟨_, -, -, -, rfl⟩⟩ |
    ⟨_, -, -, -, rfl⟩
  · cases mode with
    | set | append =>
      obtain ⟨_, -, -, rfl⟩ := reaches_hosted.mp written
      exact .inl ⟨rfl, rfl, (List.append_nil _).symm⟩
  all_goals exact .inl (.refl _)

theorem recollect_sparing (key : Expr) (bindAs : String) (p : Position) :
    Sparing setup (.recollect key bindAs p) (execRecollect setup key bindAs) := by
  intro index before asked stop after reached
  simp only [execRecollect, bind, summarize, reaches_env_bind, reaches_evaluated_bind,
    reaches_checked_bind, reaches_host_bind, reaches_modify_bind, reaches_modify] at reached
  rcases reached with ⟨_, -, ⟨_, -, _, _, _, -, ⟨_, -, -, impossible, -⟩ | ⟨_, -, -, -, rfl⟩, -⟩ |
    ⟨_, -, -, -, rfl⟩⟩ |
    ⟨_, -, -, -, rfl⟩
  · cases impossible
  all_goals exact .inl (.refl _)

/-- A `set` fails before it has bound anything, or when the memory does not take the value. -/
theorem execSet_fails {name : String} {expr : Expr}
    (reached : Reaches (execSet setup name expr index) before asked (.error stop) after) :
    ((∃ failure, expr.evaluate before.env = .error failure) ∧ Spares before [] after) ∨
      ∃ value slot fault, expr.evaluate before.env = .ok value ∧
        Entries.get? setup.slots name = some slot ∧
        (setup.memory.write (.set slot.key value)).Path asked (.error fault) ∧
        Spares { before with env := before.env.bind name value } [] after := by
  simp only [execSet, bind, summarize, reaches_env_bind, reaches_evaluated_bind,
    reaches_modify_bind] at reached
  rcases reached with ⟨value, evaluated, written⟩ | ⟨failure, failed, -, -, rfl⟩
  · cases declared : Entries.get? setup.slots name with
    | none =>
      rw [declared] at written
      cases (reaches_pure.mp written).2.1
    | some slot =>
      rw [declared] at written
      obtain ⟨given, path, failed, rfl⟩ := reaches_hosted.mp written
      cases given with
      | ok _ => cases failed
      | error fault =>
        exact .inr ⟨value, slot, fault, evaluated, rfl, path, rfl, rfl, (List.append_nil _).symm⟩
  · exact .inl ⟨⟨failure, failed⟩, .refl _⟩

/-! ## Any statement that contains no others -/

/-- A statement to which the run may not go on has not failed in a write. -/
theorem not_writeFails_of_checkpoint
    (reached : Reaches (checkpoint setup.deadline) before asked (.error stop) after) (name : String)
    (value : Value) : ¬stmt.WriteFails setup before asked name value := by
  rintro ⟨started, -, -, -⟩
  cases (Dialogue.Path.unique started reached (List.prefix_append _ _)).2

/-- What a statement has failed in: a write of the value of its expression. -/
theorem evaluated_of_writeFails {name target : String} {expr : Expr} {p : Position} {value : Value}
    (fails : Stmt.WriteFails setup before (.set target expr p) asked name value) :
    name = target ∧ expr.evaluate before.env = .ok value := by
  obtain ⟨-, evaluated, -, -⟩ := fails
  exact ⟨rfl, evaluated⟩

/-- A statement that spares the state when it fails leaves it intact. -/
theorem Sparing.intact {statement : Nat → Run Unit} {kind : StepKind} {p : Position}
    (sparing : Sparing setup stmt statement) (other : stmt.stepKind ≠ .set)
    (reached : Reaches (recorded setup.deadline kind p statement) before asked
      (.error stop) after) :
    stmt.Intact setup before asked after := by
  have never : ∀ name value, ¬stmt.WriteFails setup before asked name value := by
    rintro name value ⟨-, -, -, -⟩
    exact other rfl
  rcases recorded_reaches reached with ⟨-, -, rfl⟩ |
    ⟨_, _, _, kept, middle, -, -, performed, finished, failed⟩
  · exact ⟨rfl, fun _ => rfl, fun name value fails => absurd fails (never name value), .inl rfl⟩
  · obtain ⟨failure, rfl⟩ := error_of_locate failed
    have ending := finish_spares finished
    rcases sparing _ _ _ _ _ performed with spares | ⟨entry, notes, spares⟩
    · obtain ⟨output, env, transcript⟩ := spares.trans ending
      refine ⟨output, fun _ => env,
        fun name value fails => absurd fails (never name value), .inl ?_⟩
      simpa using transcript
    · obtain ⟨output, env, transcript⟩ := spares.trans ending
      exact ⟨output, fun _ => env, fun name value fails => absurd fails (never name value),
        .inr ⟨entry, notes, transcript⟩⟩

theorem set_intact {name : String} {expr : Expr} {p : Position}
    (reached : Reaches (recorded setup.deadline .set p (execSet setup name expr)) before asked
      (.error stop) after) :
    (Stmt.set name expr p).Intact setup before asked after := by
  rcases recorded_reaches reached with ⟨-, late, rfl⟩ |
    ⟨front, during, back, kept, middle, rfl, started, performed, finished, failed⟩
  · exact ⟨rfl, fun _ => rfl,
      fun _ _ fails => absurd fails (not_writeFails_of_checkpoint late _ _), .inl rfl⟩
  · obtain ⟨failure, rfl⟩ := error_of_locate failed
    have ending := finish_spares finished
    rcases execSet_fails performed with ⟨⟨failure, failed⟩, spares⟩ |
      ⟨value, slot, fault, evaluated, declared, refused, spares⟩
    · obtain ⟨output, env, transcript⟩ := spares.trans ending
      refine ⟨output, fun _ => env, fun _ _ fails => ?_, .inl (by simpa using transcript)⟩
      obtain ⟨-, evaluated⟩ := evaluated_of_writeFails fails
      rw [evaluated] at failed
      cases failed
    · obtain ⟨output, env, transcript⟩ := spares.trans ending
      refine ⟨output, fun never => ?_, fun _ _ fails => ?_, .inl (by simpa using transcript)⟩
      · exact absurd (.set started evaluated declared refused) (never name value)
      · obtain ⟨rfl, again⟩ := evaluated_of_writeFails fails
        obtain rfl := Except.ok.inj (evaluated.symm.trans again)
        exact env

/-- Whatever its host does, a statement that contains no others and fails leaves the state intact.
Nothing is said. The variables are as before, but for a `set` of a declared variable whose value the
memory did not take: only that variable has another value, the new one. The transcript is as before
or has one entry more, which a statement notes only when all its expressions have values and its
tool is there. -/
theorem exec_intact (leaf : stmt.stepKind ≠ .branch ∧ stmt.stepKind ≠ .loop)
    (reached : Reaches (exec setup stmt) before asked (.error stop) after) :
    stmt.Intact setup before asked after := by
  match stmt with
  | .say expr p =>
    rw [exec] at reached
    exact (say_sparing expr p).intact nofun reached
  | .ask prompt options p =>
    rw [exec] at reached
    exact (ask_sparing prompt options p).intact nofun reached
  | .set name expr p =>
    rw [exec] at reached
    exact set_intact reached
  | .call name args bindAs p =>
    rw [exec] at reached
    exact (call_sparing name args bindAs p).intact nofun reached
  | .branch _ _ _ _ => exact absurd rfl leaf.1
  | .loop _ _ _ _ => exact absurd rfl leaf.2
  | .remember key value mode p =>
    rw [exec] at reached
    exact (remember_sparing key value mode p).intact nofun reached
  | .recollect key bindAs p =>
    rw [exec] at reached
    exact (recollect_sparing key bindAs p).intact nofun reached

/-- A statement that sets a declared variable. -/
def setDeclared : Stmt := .set "x" (.literal (.text "new") ⟨1, 1⟩) ⟨1, 1⟩

def setDeclaredStart : RunState := .initial ⟨[("x", .integer 1), ("y", .integer 3)]⟩

def setDeclaredSetup : Setup where
  settings := .defaults
  redaction := ⟨true, true⟩
  metadata := .anonymous ""
  catalogue := ⟨[]⟩
  slots := [("x", .ofVariable (.anonymous "") .session "x" "number")]
  deadline := none
  connected := true

/-- A host whose memory takes nothing. -/
def refusing : World :=
  .still [] .empty ⟨none, some ⟨none, false, false, .raises (.other "KeyError" "k")⟩, none⟩

theorem setDeclared_intact :
    ∃ asked stop after,
      Reaches (exec setDeclaredSetup setDeclared) setDeclaredStart asked (.error stop) after ∧
      (∃ name value, setDeclared.WriteFails setDeclaredSetup setDeclaredStart asked name value ∧
        after.env = setDeclaredStart.env.bind name value) ∧ after.output = [] ∧
        after.transcript = [] := by
  have path := Dialogue.run_path World.host
    ((exec setDeclaredSetup setDeclared).outcome setDeclaredStart) refusing
  have shown :
      (((exec setDeclaredSetup setDeclared).outcome setDeclaredStart).run World.host
        refusing).1.1.isOk = false ∧
      ((((exec setDeclaredSetup setDeclared).outcome setDeclaredStart).run World.host
        refusing).1.2.env.get? "x").map
        Value.kind = some .string := by
    decide +kernel
  generalize (((exec setDeclaredSetup setDeclared).outcome setDeclaredStart).run World.host
    refusing).1 = ending at path shown
  obtain ⟨result, after⟩ := ending
  obtain ⟨failed, rebound⟩ := shown
  cases result with
  | ok _ => cases failed
  | error stop =>
    have reached : Reaches (exec setDeclaredSetup setDeclared) setDeclaredStart _
        (.error stop) after := path
    have intact := exec_intact ⟨by decide, by decide⟩ reached
    refine ⟨_, stop, after, reached, ?_, intact.output, ?_⟩
    · refine Classical.byContradiction fun unwitnessed => ?_
      rw [intact.env fun name value fails =>
        unwitnessed ⟨name, value, fails, intact.kept name value fails⟩] at rebound
      cases rebound
    · rcases intact.transcript with same | ⟨_, notes, -⟩
      · exact same
      · cases notes

end Run

end BotScript
