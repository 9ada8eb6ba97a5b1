import BotScript.Host.Scripted
import BotScript.Proofs.Run.Course

/-! The records of a run fit together. They are numbered in the order in which their statements
started, the host hears of them in the order in which the statements ended, and the statements that
a failure has ended enclose one another. -/

namespace BotScript

open Exchange

namespace Trail

/-- Only branches and loops have records inside. -/
def Nested : Trail → Prop
  | done => True
  | step record _ inside later =>
    (inside = .done ∨ record.kind = .branch ∨ record.kind = .loop) ∧ inside.Nested ∧ later.Nested

theorem Nested.append {front back : Trail} (first : front.Nested) (second : back.Nested) :
    (front.append back).Nested := by
  induction front with
  | done => exact second
  | step record deeds inside later _ ih => exact ⟨first.1, first.2.1, ih first.2.2⟩

mutual

theorem Follows.nested {body : List Stmt} {trail : Trail} (follows : Follows body trail) :
    trail.Nested := by
  match follows with
  | .stop _ => exact trivial
  | .step kind _ inner further => exact ⟨kind ▸ inner.composite, inner.nested, further.nested⟩

theorem Within.nested {stmt : Stmt} {inside : Trail} (inner : Within stmt inside) :
    inside.Nested := by
  match inner with
  | .nothing _ => exact trivial
  | .thenBody body => exact body.nested
  | .elseBody body => exact body.nested
  | .round now next => exact now.nested.append next.nested

end

theorem Nested.encloses {trail : Trail} {outer inner : Step} (nested : trail.Nested)
    (encloses : trail.Encloses outer inner) : outer.kind = .branch ∨ outer.kind = .loop := by
  induction trail with
  | done => exact encloses.elim
  | step record deeds inside later within_inside within_later =>
    obtain ⟨composite, deeper, further⟩ := nested
    rcases encloses with ⟨rfl, member⟩ | encloses | encloses
    · rcases composite with rfl | composite
      · cases member
      · exact composite
    · exact within_inside deeper encloses
    · exact within_later further encloses

end Trail

/-- The records of a result fit together, along a trail that nests them. -/
structure RunResult.Coherent (result : RunResult) (asked : List Exchange) (trail : Trail) :
    Prop where
  starts : result.steps = trail.starts
  /-- The host hears of every record, just as the result has it, when the statement has ended. -/
  ends : told asked = trail.ends
  once : (told asked).Perm result.steps
  numbered : result.steps.map Step.index = List.range result.steps.length
  complete : ∀ record ∈ result.steps, record.outcome ≠ .running
  well : result.success = true → ∀ record ∈ result.steps, record.outcome = .ok
  /-- The statements that did not end well enclose one another; all but the innermost are branches
  and loops. -/
  chain : List.IsChain (fun outer inner => (outer.kind = .branch ∨ outer.kind = .loop) ∧
      trail.Encloses outer inner)
    (result.steps.filter Trail.isBroken)
  /-- They all report the failure of the run. -/
  blamed : ∀ record ∈ result.steps, record.outcome ≠ .ok →
      ∃ failure, result.failure = some failure ∧
    record.outcome = if failure.kind = .cancelled then .cancelled failure.report
      else .failed failure.report

namespace RunRequest

variable {request : RunRequest} {after : RunState} {asked : List Exchange} {trail : Trail}

private theorem Course.numbered_range {ended : Except Stop Unit}
    (course : request.Course asked ended after trail) :
    after.steps.map Step.index = List.range after.steps.length := by
  rw [course.steps, List.range_eq_range']
  exact course.numbered

private theorem Course.told_perm {ended : Except Stop Unit}
    (course : request.Course asked ended after trail) :
    (Exchange.told asked).Perm after.steps := by
  rw [course.told, course.steps]
  exact trail.ends_perm_starts

theorem Goes.nested {handler : Option Nat} (goes : request.Goes handler trail) : trail.Nested := by
  cases goes with
  | nowhere => exact trivial
  | through chosen listed answers follows => exact follows.nested

theorem Course.coherent_of_ok (course : request.Course asked (.ok ()) after trail) :
    (request.resultOf none after).Coherent asked trail := by
  have well : ∀ record ∈ after.steps, record.outcome = .ok := by
    rw [course.steps]
    exact course.ends
  refine ⟨course.steps, course.told, course.told_perm, course.numbered_range, ?_,
    fun _ => well, ?_, ?_⟩
  · intro record member running
    cases (well record member).symm.trans running
  · have unbroken : after.steps.filter Trail.isBroken = [] := by
      rw [course.steps]
      exact Trail.Succeeds.broken course.ends
    simp [resultOf, unbroken]
  · intro record member broken
    exact absurd (well record member) broken

theorem Course.coherent_of_fault {fault : Fault}
    (course : request.Course asked (.error (.fault fault)) after trail) :
    (request.resultOf (some ⟨fault.cause.kind, fault.describe⟩) after).Coherent asked trail := by
  have fails : trail.Fails fault := course.ends
  have broken : ∀ record ∈ after.steps, record.outcome ≠ .ok → record.outcome = .ofFault fault := by
    intro record member broken
    refine fails.blamed record (List.mem_filter.mpr ⟨course.steps ▸ member, ?_⟩)
    simpa [Trail.isBroken] using broken
  refine ⟨course.steps, course.told, course.told_perm, course.numbered_range, ?_, ?_, ?_, ?_⟩
  · intro record member running
    have blamed := broken record member (by simp [running])
    rw [running, StepOutcome.ofFault] at blamed
    split at blamed <;> cases blamed
  · intro succeeded
    cases succeeded
  · change List.IsChain _ (after.steps.filter Trail.isBroken)
    rw [course.steps]
    exact fails.chain.imp fun outer inner encloses =>
      ⟨course.goes.nested.encloses encloses, encloses⟩
  · intro record member failed
    exact ⟨_, rfl, broken record member failed⟩

end RunRequest

/-- Whatever the program and the host do, the records of a result fit together, along a trail
through the handler that the result names. -/
theorem RunRequest.execute_coherent {σ : Type} (request : RunRequest) (host : Host σ) (world : σ)
    {result : RunResult} {journal : List Event}
    (concluded : (request.execute.run host world).1 = (.ok result, journal)) :
    ∃ trail, result.Coherent (request.execute.exchanges host world) trail ∧
      request.Goes result.handler trail := by
  have path := Dialogue.run_path host request.execute world
  rw [concluded] at path
  rcases execute_course path with ⟨failure, silent, rfl⟩ | ⟨ended, after, trail, course, ending⟩
  · rw [silent]
    have vacuous (claim : Step → Prop) : ∀ record ∈ ([] : List Step), claim record :=
      List.forall_mem_nil claim
    exact ⟨.done,
      ⟨rfl, rfl, .refl [], rfl, vacuous _, fun _ => vacuous _, .nil, vacuous _⟩, .nowhere⟩
  · rcases ending with ⟨rfl, rfl⟩ | ⟨fault, rfl, rfl⟩
    · exact ⟨trail, course.coherent_of_ok, course.goes⟩
    · exact ⟨trail, course.coherent_of_fault, course.goes⟩

/-- A run whose last failure lies in a branch in a loop. -/
def RunRequest.nestedFailure : RunRequest :=
  .alone "bot b on input set xs to [1, 2] loop x in xs say x if x == 2 say y end end end end"

theorem RunRequest.nestedFailure_coherent :
    ∃ result journal trail, (nestedFailure.execute.run World.host (.bare [])).1 =
        (.ok result, journal) ∧
      (result.steps.filter Trail.isBroken).map Step.kind = [.loop, .branch, .say] ∧
      result.Coherent (nestedFailure.execute.exchanges World.host (.bare [])) trail ∧
      nestedFailure.Goes result.handler trail := by
  have failed : ((nestedFailure.execute.run World.host (.bare [])).1.1.toOption.any fun result =>
      (result.steps.filter Trail.isBroken).map Step.kind = [.loop, .branch, .say]) = true := by
        decide +kernel
  obtain ⟨result, journal, concluded, failed⟩ := concluded_of_any failed
  obtain ⟨trail, coherent, goes⟩ := execute_coherent nestedFailure World.host (.bare []) concluded
  exact ⟨result, journal, trail, concluded, of_decide_eq_true failed, coherent, goes⟩

end BotScript
