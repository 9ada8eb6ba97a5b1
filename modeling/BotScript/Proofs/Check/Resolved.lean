import BotScript.Check.Report
import BotScript.Proofs.Run.Acts

/-! What a check of a program promises about its calls. The check and the run look tools up in
different ways: the check asks whether some offered tool has the name, the run finds the tool in its
catalogue. A run refuses exactly those of its calls of which the check has warned. -/

namespace BotScript

/-- The warning that a called tool is not there. -/
def Stmt.toolWarning (tool : String) (p : Position) : Diagnostic :=
  ⟨.unknownTool tool, p⟩

namespace Program

variable {program : Program} {names known : List String} {tool : String} {p : Position}

/-- A tool is only missed when it is not among the names. -/
theorem not_mem_of_warning
    (warned : Stmt.toolWarning tool p ∈ (program.check (some names) known).warnings) :
    tool ∉ names := by
  unfold Stmt.toolWarning check at warned
  rcases List.mem_append.mp warned with count | inside
  · unfold countWarnings at count
    split at count
    · cases List.mem_singleton.mp count
    · cases count
  · obtain ⟨bot, -, warned⟩ := List.mem_flatMap.mp inside
    unfold Bot.warnings at warned
    rcases List.mem_append.mp warned with fallback | inside
    · obtain ⟨event, -, impossible⟩ := List.mem_map.mp fallback
      cases impossible
    · obtain ⟨handler, -, warned⟩ := List.mem_flatMap.mp inside
      rcases List.mem_append.mp warned with called | read
      · obtain ⟨stmt, -, warned⟩ := List.mem_flatMap.mp called
        unfold Bot.toolWarnings at warned
        split at warned
        · cases warned
        · rcases List.mem_append.mp warned with missed | unlisted
          · split at missed
            · rename_i away
              obtain ⟨⟨rfl⟩, rfl⟩ := Diagnostic.mk.inj (List.mem_singleton.mp missed)
              simpa using away
            · cases missed
          · split at unlisted
            · cases List.mem_singleton.mp unlisted
            · cases unlisted
      · obtain ⟨name, -, impossible⟩ := List.mem_map.mp read
        cases impossible

/-- Every call of a tool that is not among the names is warned of. -/
theorem warning_of_not_mem {args : List (String × Expr)} {bindAs : Option String}
    (among : .call tool args bindAs p ∈ program.statements) (away : tool ∉ names) :
    Stmt.toolWarning tool p ∈ (program.check (some names) known).warnings := by
  obtain ⟨bot, listed, inside⟩ := List.mem_flatMap.mp among
  obtain ⟨handler, handles, called⟩ := List.mem_flatMap.mp inside
  refine List.mem_append_right _ (List.mem_flatMap.mpr ⟨bot, listed, List.mem_append_right _ ?_⟩)
  refine List.mem_flatMap.mpr ⟨handler, handles,
    List.mem_append_left _ (List.mem_flatMap.mpr ⟨_, called, ?_⟩)⟩
  refine List.mem_append_left _ ?_
  simp [Stmt.toolWarning, Stmt.position, away]

end Program

/-- The names that a check takes from offered tools. -/
def Offer.allNames (offers : List Offer) : List String :=
  offers.flatMap Offer.names

/-- Checks and runs agree on tools. Offered tools make a catalogue, in which a name finds the last
tool of that name, or the last one with that capability where no tool has the name; an empty
capability is none. Whatever a run of a program with these tools does, and however it ends, its
records are those of statements that the check goes through; a call is refused before its arguments
are evaluated, without an entry in the transcript, when a check with the same tools warns of it, and
never otherwise. -/
theorem RunRequest.calls_settled (request : RunRequest)
    (offered : ∀ offer ∈ request.offers, offer.IsTool)
    (objects : ∀ offer ∈ request.offers, offer.text = none) :
    ∃ catalogue, Catalogue.ofOffers request.offers = .ok catalogue ∧
      (∀ name, catalogue.get? name = (Offer.lastTool? (·.name = some name) request.offers).or
        (Offer.lastTool? (fun offer => name ≠ "" ∧ offer.capability = some name) request.offers)) ∧
      ∀ (program : Program) (known : List String) env asked result after,
        parseProgram request.source = .ok program →
        Run.Reaches (Run.program request program) (.initial env) asked result after →
        ∃ (report : CheckReport) (acts : List Act),
          checkSource request.source (some (Offer.allNames request.offers)) known = .ok report ∧
          after.steps = acts.map Act.record ∧ after.transcript = acts.flatMap Act.entries ∧
          ∀ act ∈ acts, act.stmt ∈ program.statements ∧ act.Recorded ∧ act.asked <:+: asked ∧
            ∀ tool args bindAs p, act.stmt = .call tool args bindAs p →
              (Stmt.toolWarning tool p ∈ report.warnings → act.Refused catalogue tool bindAs) ∧
              (Stmt.toolWarning tool p ∉ report.warnings → act.Served) := by
  obtain ⟨catalogue, made, finds⟩ := Catalogue.ofOffers_finds offered
  refine ⟨catalogue, made, finds, fun program known env asked result after parsed reached => ?_⟩
  obtain ⟨acts, enacts⟩ := Run.program_enacts made reached
  refine ⟨program.check (some (Offer.allNames request.offers)) known, acts,
    by rw [checkSource, parsed], ?_, ?_, ?_⟩
  · exact enacts.steps.trans (List.nil_append _)
  · exact enacts.transcript.trans (List.nil_append _)
  · intro act member
    obtain ⟨among, recorded, settled⟩ := enacts.fair act member
    refine ⟨among, recorded, enacts.during act member, fun tool args bindAs p same => ?_⟩
    obtain ⟨refused, served⟩ := settled tool args bindAs p same
    have known : (catalogue.get? tool).isSome ↔ tool ∈ Offer.allNames request.offers :=
      Catalogue.isSome_iff_mem_names offered objects made tool
    constructor
    · intro warned
      refine refused (Option.not_isSome_iff_eq_none.mp fun found => ?_)
      exact Program.not_mem_of_warning warned (known.mp found)
    · intro quiet
      refine served (known.mpr ?_)
      by_contra away
      exact quiet (Program.warning_of_not_mem (same ▸ among) away)

namespace RunRequest

/-- A request whose program calls a tool by its capability and then one that is not there, with an
argument that has no value either. -/
def absentTool : RunRequest :=
  { alone "bot b on input call greet with {} call leave with \x7b x: y \x7d end end" with
    offers := [.ofRecord "wave" "greet" ""] }

def absentToolWorld : World :=
  .bare [⟨.ofRecord "wave" "greet" "", false, true, []⟩]

/-- Which statements of the run did not end well, and the warnings of a check with its tools. -/
def absentToolRun : Option (List Bool × List String) :=
  match parseProgram absentTool.source with
  | .ok program =>
    let after :=
      (((Run.program absentTool program).outcome (.initial .empty)).run World.host
        absentToolWorld).1.2
    some (after.steps.map Trail.isBroken,
      (program.check (some (Offer.allNames absentTool.offers)) []).warnings.map (·.finding.code))
  | .error _ => none

theorem absentTool_settled :
    (∀ offer ∈ absentTool.offers, offer.IsTool) ∧ (∀ offer ∈ absentTool.offers, offer.text = none) ∧
      ∃ program catalogue asked result after report, ∃ acts : List Act,
        parseProgram absentTool.source = .ok program ∧
        Catalogue.ofOffers absentTool.offers = .ok catalogue ∧
        Run.Reaches (Run.program absentTool program) (.initial .empty) asked result after ∧
        checkSource absentTool.source (some (Offer.allNames absentTool.offers)) [] = .ok report ∧
        report.warnings.map (·.finding.code) = ["HL-1001", "HL-1005"] ∧
        after.steps.map Trail.isBroken = [false, true] ∧
        after.steps = acts.map Act.record ∧
        ∀ act ∈ acts, ∀ tool args bindAs p, act.stmt = .call tool args bindAs p →
          (Stmt.toolWarning tool p ∈ report.warnings → act.Refused catalogue tool bindAs) ∧
            (Stmt.toolWarning tool p ∉ report.warnings → act.Served) := by
  have offered : ∀ offer ∈ absentTool.offers, offer.IsTool :=
    List.forall_mem_singleton.mpr ⟨"wave", rfl, by decide, rfl⟩
  have objects : ∀ offer ∈ absentTool.offers, offer.text = none := List.forall_mem_singleton.mpr rfl
  obtain ⟨catalogue, made, -, settled⟩ := calls_settled absentTool offered objects
  have shown : absentToolRun = some ([false, true], ["HL-1001", "HL-1005"]) := by decide +kernel
  unfold absentToolRun at shown
  split at shown
  · rename_i program parsed
    obtain ⟨broken, codes⟩ := Prod.mk.inj (Option.some.inj shown)
    have path := Dialogue.run_path World.host
      ((Run.program absentTool program).outcome (.initial .empty)) absentToolWorld
    obtain ⟨report, acts, checked, steps, -, fair⟩ := settled program [] _ _ _ _ parsed path
    rw [checkSource, parsed] at checked
    obtain rfl := Except.ok.inj checked
    exact ⟨offered, objects, program, catalogue, _, _, _, _, acts, parsed, made, path,
      by rw [checkSource, parsed], codes,
      broken, steps, fun act member => (fair act member).2.2.2⟩
  · cases shown

end RunRequest

end BotScript
