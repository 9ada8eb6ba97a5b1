import BotScript.Host.Dialogue
import Mathlib.Data.List.Chain

/-! The nesting of records. A trail keeps beside every record what its statement did and what ran
inside it, so the order in which statements start, the order in which they end and the enclosing of
one by another are all read from one tree. -/

namespace BotScript

/-- What a statement did that can be seen from outside: entries of the transcript, runs of tools,
calls of the memory. -/
@[ext]
structure Deeds where
  transcript : List Utterance
  runs : List (Tool × List (String × Value))
  calls : List MemoryCall

namespace Deeds

def none : Deeds := ⟨[], [], []⟩

def append (first second : Deeds) : Deeds :=
  ⟨first.transcript ++ second.transcript, first.runs ++ second.runs, first.calls ++ second.calls⟩

@[simp] theorem none_append (deeds : Deeds) : none.append deeds = deeds := rfl

@[simp] theorem append_none (deeds : Deeds) : deeds.append none = deeds := by
  simp [append, none]

theorem append_assoc (first second third : Deeds) :
    (first.append second).append third = first.append (second.append third) := by
  simp [append]

end Deeds

/-- Records of statements that ran one after the other, each with what the statement itself did and
with the records of the statements inside it. -/
inductive Trail
  | done
  | step (record : Step) (deeds : Deeds) (inside later : Trail)

namespace Trail

/-- The records in the order in which the statements started. -/
def starts : Trail → List Step
  | done => []
  | step record _ inside later => record :: (inside.starts ++ later.starts)

/-- The records in the order in which the statements ended. -/
def ends : Trail → List Step
  | done => []
  | step record _ inside later => inside.ends ++ record :: later.ends

/-- Everything that the statements of a trail did. -/
def total : Trail → Deeds
  | done => .none
  | step _ deeds inside later => deeds.append (inside.total.append later.total)

/-- One trail behind another. -/
def append : Trail → Trail → Trail
  | done, back => back
  | step record deeds inside later, back => step record deeds inside (later.append back)

/-- The execution of one statement of a trail encloses that of the other. -/
def Encloses : Trail → Step → Step → Prop
  | done, _, _ => False
  | step record _ inside later, outer, inner =>
    (record = outer ∧ inner ∈ inside.starts) ∨ inside.Encloses outer inner ∨
    later.Encloses outer inner

/-- The records are numbered in the order of their starts. -/
def NumberedFrom (first : Nat) (trail : Trail) : Prop :=
  trail.starts.map Step.index = List.range' first trail.starts.length

/-- Every statement of a trail has ended well. -/
def Succeeds (trail : Trail) : Prop :=
  ∀ record ∈ trail.starts, record.outcome = .ok

/-- A fault has ended a trail: it stopped the last statement, and within that statement again the
last one, as far down as it was met inside a statement. Everything before had ended well. -/
inductive Fails (fault : Fault) : Trail → Prop
  | between {trail : Trail} (well : trail.Succeeds) : Fails fault trail
  | within {record : Step} {deeds : Deeds} {inside : Trail}
      (blamed : record.outcome = .ofFault fault) (placed : fault.place.line.isSome)
      (deeper : Fails fault inside) : Fails fault (step record deeds inside done)
  | later {record : Step} {deeds : Deeds} {inside rest : Trail} (ended : record.outcome = .ok)
      (well : inside.Succeeds) (further : Fails fault rest) :
      Fails fault (step record deeds inside rest)

/-- What the way a part of a run ended says about its trail. -/
def Ends (trail : Trail) : Except Stop Unit → Prop
  | .ok () => trail.Succeeds
  | .error (.fault fault) => trail.Fails fault
  | .error (.escape _) => True

@[simp] theorem starts_append (front back : Trail) :
    (front.append back).starts = front.starts ++ back.starts := by
  induction front with
  | done => rfl
  | step record deeds inside later _ ih => simp [append, starts, ih]

@[simp] theorem ends_append (front back : Trail) :
    (front.append back).ends = front.ends ++ back.ends := by
  induction front with
  | done => rfl
  | step record deeds inside later _ ih => simp [append, ends, ih]

@[simp] theorem total_append (front back : Trail) :
    (front.append back).total = front.total.append back.total := by
  induction front with
  | done => rfl
  | step record deeds inside later _ ih => simp [append, total, ih, Deeds.append_assoc]

@[simp] theorem append_done (trail : Trail) : trail.append done = trail := by
  induction trail with
  | done => rfl
  | step record deeds inside later _ ih => simp [append, ih]

theorem NumberedFrom.append {first : Nat} {front back : Trail} (early : front.NumberedFrom first)
    (late : back.NumberedFrom (first + front.starts.length)) :
    (front.append back).NumberedFrom first := by
  unfold NumberedFrom at *
  simp [early, late]

/-- The two orders list the same records. -/
theorem ends_perm_starts (trail : Trail) : trail.ends.Perm trail.starts := by
  induction trail with
  | done => exact .refl _
  | step record deeds inside later first second =>
    simp only [ends, starts]
    exact List.perm_middle.trans ((first.append second).cons record)

theorem succeeds_done : done.Succeeds := by
  simp [Succeeds, starts]

theorem succeeds_step_iff {record : Step} {deeds : Deeds} {inside later : Trail} :
    (step record deeds inside later).Succeeds ↔ record.outcome = .ok ∧ inside.Succeeds ∧
    later.Succeeds := by
  simp [Succeeds, starts, or_imp, forall_and]

theorem Fails.after {fault : Fault} {front back : Trail} (well : front.Succeeds)
    (further : back.Fails fault) :
    (front.append back).Fails fault := by
  induction front with
  | done => exact further
  | step record deeds inside later _ ih =>
    obtain ⟨ended, inner, rest⟩ := succeeds_step_iff.mp well
    exact .later ended inner (ih rest)

theorem ends_done (result : Except Stop Unit) : done.Ends result := by
  match result with
  | .ok () => exact succeeds_done
  | .error (.fault fault) => exact .between succeeds_done
  | .error (.escape _) => trivial

/-- A trail that ends well may go on. -/
theorem Ends.after {result : Except Stop Unit} {front back : Trail} (well : front.Succeeds)
    (more : back.Ends result) :
    (front.append back).Ends result := by
  match result with
  | .ok () =>
    intro record member
    rcases List.mem_append.mp (starts_append front back ▸ member) with early | late
    · exact well record early
    · exact more record late
  | .error (.fault fault) => exact Fails.after well more
  | .error (.escape _) => trivial

/-- A fault that is already blamed on a place keeps it, and one that met no statement has blamed
none. -/
theorem Fails.locate {fault : Fault} {trail : Trail} (fails : trail.Fails fault) (p : Position) :
    trail.Fails (fault.locate p) := by
  induction fails with
  | between well => exact .between well
  | within blamed placed deeper ih =>
    have same : fault.locate p = fault := by
      simp [Fault.locate, Place.orElse, Option.isNone_eq_false_iff.mpr placed]
    rw [same] at ih ⊢
    exact .within blamed placed ih
  | later ended well _ ih => exact .later ended well ih

theorem located_line (fault : Fault) (p : Position) : (fault.locate p).place.line.isSome := by
  unfold Fault.locate Place.orElse
  cases known : fault.place.line <;> simp [known, Place.of]

/-! ## The chain of statements that a fault has ended -/

/-- The statement did not end well. -/
def isBroken (record : Step) : Bool :=
  record.outcome ≠ .ok

/-- The statements that did not end well, in the order in which they started. -/
def broken (trail : Trail) : List Step :=
  trail.starts.filter isBroken

theorem Succeeds.broken {trail : Trail} (well : trail.Succeeds) : trail.broken = [] := by
  simpa [Trail.broken, isBroken, Succeeds] using well

theorem Encloses.within {record : Step} {deeds : Deeds} {inside later : Trail} {outer inner : Step}
    (encloses : inside.Encloses outer inner) :
    (step record deeds inside later).Encloses outer inner :=
  .inr (.inl encloses)

theorem Encloses.later {record : Step} {deeds : Deeds} {inside later : Trail} {outer inner : Step}
    (encloses : later.Encloses outer inner) :
    (step record deeds inside later).Encloses outer inner :=
  .inr (.inr encloses)

theorem ofFault_isBroken {fault : Fault} {record : Step}
    (blamed : record.outcome = .ofFault fault) :
    isBroken record = true := by
  unfold isBroken
  rw [blamed]
  unfold StepOutcome.ofFault
  split <;> simp

theorem broken_within {fault : Fault} {record : Step} {deeds : Deeds} {inside : Trail}
    (blamed : record.outcome = .ofFault fault) :
    (step record deeds inside done).broken = record :: inside.broken := by
  simp [Trail.broken, starts, ofFault_isBroken blamed]

theorem broken_later {record : Step} {deeds : Deeds} {inside rest : Trail}
    (ended : record.outcome = .ok) (well : inside.Succeeds) :
    (step record deeds inside rest).broken = rest.broken := by
  have passed : isBroken record = false := by simp [isBroken, ended]
  have unbroken : inside.starts.filter isBroken = [] := well.broken
  simp [Trail.broken, starts, passed, unbroken]

/-- The statements that a fault has ended form a chain, each enclosing the next. -/
theorem Fails.chain {fault : Fault} {trail : Trail} (fails : trail.Fails fault) :
    List.IsChain trail.Encloses trail.broken := by
  induction fails with
  | between well => simp [well.broken]
  | @within record deeds inside blamed placed deeper ih =>
    rw [broken_within blamed, List.isChain_cons]
    refine ⟨?_, ih.imp fun _ _ => Encloses.within⟩
    intro next first
    have member : next ∈ inside.starts := (List.mem_filter.mp (List.mem_of_mem_head? first)).1
    exact .inl ⟨rfl, member⟩
  | later ended well _ ih =>
    rw [broken_later ended well]
    exact ih.imp fun _ _ => Encloses.later

/-- Every statement that a fault has ended is ended by that fault. -/
theorem Fails.blamed {fault : Fault} {trail : Trail} (fails : trail.Fails fault) :
    ∀ record ∈ trail.broken, record.outcome = .ofFault fault := by
  induction fails with
  | between well => simp [well.broken]
  | within blamed placed deeper ih =>
    rw [broken_within blamed]
    exact List.forall_mem_cons.mpr ⟨blamed, ih⟩
  | later ended well _ ih => rwa [broken_later ended well]

end Trail

end BotScript
