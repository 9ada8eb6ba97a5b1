import BotScript.Host.Scripted
import BotScript.Proofs.Alike.Execution
import BotScript.Proofs.Layout.Programs
import BotScript.Proofs.Run.Course

/-! The layout of a program text has no part in what it means. Two texts whose tokens have the same
kinds and texts are the same program or the same mistake, and with hosts that answer alike they do
the same; only the places that records and reports name may differ. -/

namespace BotScript

/-- Positions are not looked at; everything else is the same. -/
def Slack.layout : Slack :=
  ⟨Position.blind, Eq⟩

/-- Refusals of the same tokens say the same. -/
private theorem ofFailure_alike {failure failure' : Failure} (alike : failure.Alike failure')
    (finish finish' : Position) :
    (SyntaxError.ofFailure finish failure).Alike .layout
      (SyntaxError.ofFailure finish' failure') := by
  cases alike with
  | numeral numeral => exact .numeral numeral
  | complaint tokens =>
    exact .reported rfl rfl rfl (Complaint.message_alike tokens) rfl
      (congrArg some (Complaint.found_alike tokens)) rfl

/-- Texts with the same tokens are programs that differ in positions alone, or they are refused
alike. -/
theorem parseProgram_alike {source other : String} {stream stream' : TokenStream}
    (scanned : tokenize source = .ok stream) (scanned' : tokenize other = .ok stream')
    (same : stream.tokens.map Token.bare = stream'.tokens.map Token.bare) :
    SyntaxError.EndAlike .layout (parseProgram source) (parseProgram other) := by
  unfold parseProgram
  rw [scanned, scanned']
  dsimp only
  have programs := Reading.program_alike (Token.alike_of_bare same)
  revert programs
  generalize Reading.program stream.tokens = result
  generalize Reading.program stream'.tokens = result'
  intro programs
  cases programs with
  | ok look => exact .ok look
  | error alike => exact .error (ofFailure_alike alike _ _)

/-- The layout of a program text has no part in what it means: texts with the same tokens are
programs that differ in positions alone, or refused with the same complaint; and run for the same
request with hosts that answer alike, they ask for the same tools and the same memory, and come to
results that differ only in the places that they name. -/
theorem layout_insensitive {source other : String} {stream stream' : TokenStream}
    (scanned : tokenize source = .ok stream) (scanned' : tokenize other = .ok stream')
    (same : stream.tokens.map Token.bare = stream'.tokens.map Token.bare) :
    SyntaxError.EndAlike .layout (parseProgram source) (parseProgram other) ∧
      ∀ (request : RunRequest) {σ τ : Type} (host : Host σ) (host' : Host τ)
        (worlds : σ → τ → Prop),
        host.Alike .layout host' worlds → ∀ world world', worlds world world' →
          Dialogue.RunAlike
            (fun left right =>
              RunResult.EndAlike .layout { request with source }
                { request with source := other } left.1 right.1)
            worlds host host' { request with source }.execute
              { request with source := other }.execute world world' := by
  have programs := parseProgram_alike scanned scanned' same
  refine ⟨programs, fun request σ τ host host' worlds hosts world world' related => ?_⟩
  have requests : RunRequest.Alike .layout { request with source }
    { request with source := other } :=
    ⟨programs, rfl, Slack.steady_of_same _ rfl⟩
  exact (RunRequest.execute_alike requests).run hosts related

/-! ## Scripted hosts -/

/-- Two scripted hosts that differ only in the places of the statements that they have heard of. -/
structure World.Alike (slack : Slack) (world other : World) : Prop where
  heard : List.Forall₂ (Step.Alike slack) world.heard other.heard
  rest : other = { world with heard := other.heard }

namespace World

/-- Work that does not depend on what the host has heard of, and leaves it as it is. -/
def Deaf (work : World → Completion × World) : Prop :=
  ∀ world heard, work { world with heard } = ((work world).1, { (work world).2 with heard }) ∧
    (work world).2.heard = world.heard

theorem Deaf.alike {slack : Slack} {work : World → Completion × World} (deaf : Deaf work)
    {world other : World} (worlds : world.Alike slack other) :
    (work world).1 = (work other).1 ∧ (work world).2.Alike slack (work other).2 := by
  obtain ⟨heard, rest⟩ := worlds
  obtain ⟨same, kept⟩ := deaf world other.heard
  rw [rest, same]
  exact ⟨rfl, by rw [kept]; exact heard, rfl⟩

theorem act_deaf (action : Action) (args : List (String × Value)) : Deaf (·.act action args) := by
  intro world heard
  unfold act
  cases action.advance <;> cases action.cancel <;> exact ⟨rfl, rfl⟩

theorem work_deaf (tool : Tool) (script : ToolScript) (args : List (String × Value)) :
    Deaf (·.work tool script args) := fun world heard =>
  act_deaf (actionOf script _) args
    { world with
      counts := world.counts.set tool.index ((world.counts[tool.index]?).getD 0 + 1)
      toolCalls := world.toolCalls ++ [(tool.name, args)] }
    heard

theorem callTool_deaf (tool : Tool) (args : List (String × Value)) :
    Deaf (·.callTool tool args) := by
  intro world heard
  unfold callTool
  dsimp only
  split
  · exact ⟨rfl, rfl⟩
  · rename_i script _
    cases script.handled <;> cases script.handsBack
    case true.false => exact work_deaf tool script args world heard
    all_goals exact ⟨rfl, rfl⟩

theorem awaitTool_deaf (tool : Tool) : Deaf (·.awaitTool tool) := by
  intro world heard
  unfold awaitTool
  dsimp only
  split
  · exact ⟨rfl, rfl⟩
  · rename_i script _
    exact act_deaf (actionOf script _) world.lastArgs
      { world with
        counts := world.counts.set tool.index ((world.counts[tool.index]?).getD 0 + 1) } heard

theorem callMemory_deaf (call : MemoryCall) : Deaf (·.callMemory call) := by
  intro world heard
  unfold callMemory
  dsimp only
  split
  · rename_i action _
    exact act_deaf action [] { world with memoryCalls := world.memoryCalls ++ [call] } heard
  · exact ⟨rfl, rfl⟩

/-- A scripted host does not look at the places in the records that it hears of. -/
theorem host_alike : host.Alike .layout host (World.Alike .layout) where
  observe := by
    rintro world world' ⟨heard, rest⟩
    rw [rest]
    exact ⟨rfl, heard, rfl⟩
  tool tool args world world' := (callTool_deaf tool args).alike
  awaitTool tool world world' := (awaitTool_deaf tool).alike
  memory call world world' := (callMemory_deaf call).alike
  stepEnded := by
    rintro record record' world world' records ⟨heard, rest⟩
    have more : List.Forall₂ (Step.Alike .layout) (world.heard ++ [record])
      (world'.heard ++ [record']) :=
      List.rel_append heard (.cons records .nil)
    have length := more.length_eq
    rw [rest]
    change World.Alike _ (world.hear record).2 (World.hear _ record').2
    unfold hear
    dsimp only
    rw [← length]
    split
    · exact ⟨heard, rfl⟩
    · split <;> exact ⟨more, rfl⟩

theorem Alike.refl {slack : Slack} (world : World) (silent : world.heard = []) :
    world.Alike slack world where
  heard := by
    rw [silent]
    exact .nil
  rest := rfl

end World

/-- A text whose run fails in its second statement. -/
def shortText : String :=
  "bot b on input say 1 say missing end end"

/-- The same tokens over several lines. -/
def longText : String :=
  "bot b # one bot\n\n  on input\n    say 1\n    say   missing\n  end\nend\n"

/-- The lines that the records of a text's run name. -/
def stepLines (source : String) : Option (List Nat) :=
  ((RunRequest.alone source).execute.run World.host (.bare [])).1.1.toOption.map
  (·.steps.map Step.line)

theorem longText_insensitive :
    (stepLines shortText = some [1, 1] ∧ stepLines longText = some [4, 5]) ∧
    ∃ stream stream',
    (tokenize shortText = .ok stream ∧ tokenize longText = .ok stream' ∧ stream ≠ stream' ∧
      stream.tokens.map Token.bare = stream'.tokens.map Token.bare) ∧
    Dialogue.RunAlike
      (fun left right => RunResult.EndAlike .layout (.alone shortText)
        (.alone longText) left.1 right.1)
      (World.Alike .layout) World.host World.host (RunRequest.alone shortText).execute
      (RunRequest.alone longText).execute (.bare []) (.bare []) := by
  have differ : tokenize shortText ≠ tokenize longText := by decide +kernel
  have same : (tokenize shortText).toOption.map (·.tokens.map Token.bare) =
      (tokenize longText).toOption.map (·.tokens.map Token.bare) := by decide +kernel
  have read : (tokenize shortText).toOption.isSome := by decide +kernel
  refine ⟨by decide +kernel, ?_⟩
  cases scanned : tokenize shortText with
  | error error =>
    rw [scanned] at read
    cases read
  | ok stream =>
    cases scanned' : tokenize longText with
    | error error =>
      rw [scanned, scanned'] at same
      cases same
    | ok stream' =>
      rw [scanned, scanned'] at differ same
      have same := Option.some.inj same
      exact ⟨stream, stream', ⟨rfl, rfl, fun equal => differ (congrArg _ equal), same⟩,
        (layout_insensitive scanned scanned' same).2
        (.alone shortText) World.host World.host _ World.host_alike _ _
          (.refl _ rfl)⟩

end BotScript
