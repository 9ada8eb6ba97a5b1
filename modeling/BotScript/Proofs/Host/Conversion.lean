import BotScript.Proofs.Evaluation.Readable
import BotScript.Proofs.Host.Limits

/-! What the memory gives to a run. A value that is read is data that the memory returned, so a
memory that returns only data with a value never stops a run without a report. -/

namespace BotScript

/-- The data that the memory returns for a key. -/
def Exchange.remembered? (exchange : Exchange) : Option Datum :=
  match exchange with
  | ⟨.memory (.get _), .returned datum⟩ => some datum
  | _ => none

/-- Data that the memory returns has a value. -/
def Exchange.Converts (exchange : Exchange) : Prop :=
  ∀ datum ∈ exchange.remembered?, datum.obstacle? = none

instance (exchange : Exchange) : Decidable exchange.Converts :=
  inferInstanceAs (Decidable (∀ datum ∈ exchange.remembered?, datum.obstacle? = none))

theorem Datum.convert_of_value {datum : Datum} (fine : datum.obstacle? = none) :
    datum.convert = .ok datum.toValue := by
  rw [convert, fine]

namespace Dialogue

variable {asked : List Exchange} {datum : Datum}

/-- Data that work comes to under its limits is what the work returned. -/
theorem settle_data {deadline : Option Deadline} {bound : Bound} {work : String}
    {completion : Completion}
    (path : Path (settle deadline bound work completion) asked (.ok (.data datum))) :
    completion = .returned datum := by
  cases completion with
  | raised error => cases (path_done_iff.mp path).2
  | returned given =>
    obtain ⟨moment, front, back, -, rest, -⟩ := path_bind_iff.mp path
    split at rest
    · cases (path_done_iff.mp rest).2
    · obtain ⟨-, same⟩ := path_pure_iff.mp rest
      obtain rfl := Yield.data.inj (Except.ok.inj same)
      rfl
  | pending =>
    obtain ⟨moment, front, back, -, rest, -⟩ := path_bind_iff.mp path
    split at rest
    · cases (path_done_iff.mp rest).2
    · cases (path_pure_iff.mp rest).2
  | withdrawn =>
    obtain ⟨moment, front, back, -, rest, -⟩ := path_bind_iff.mp path
    split at rest
    · cases (path_done_iff.mp rest).2
    · cases (path_pure_iff.mp rest).2
  | hung =>
    obtain ⟨moment, front, back, -, rest, -⟩ := path_bind_iff.mp path
    cases (path_done_iff.mp rest).2

theorem guarded_data {deadline : Option Deadline} {own : Option Binary64} {work : String}
    {start : Dialogue Completion}
    (path : Path (guarded deadline own work start) asked (.ok (.data datum))) :
    ∃ front middle back, asked = front ++ (middle ++ back) ∧
      start.Path middle (.returned datum) := by
  obtain ⟨moment, front, behind, -, rest, rfl⟩ := path_bind_iff.mp path
  split at rest
  · cases (path_done_iff.mp rest).2
  · obtain ⟨completion, middle, back, started, settled, rfl⟩ := path_bind_iff.mp rest
    obtain rfl := settle_data settled
    exact ⟨front, middle, back, rfl, started⟩

end Dialogue

namespace MemoryAccess

open Dialogue

variable {access : MemoryAccess} {asked : List Exchange}

/-- Data under a key has a value when the memory returns only such data. -/
theorem perform_converts {key : String} {datum : Datum}
    (path : Path (access.perform (.get key)) asked (.ok datum))
    (converts : ∀ exchange ∈ asked, exchange.Converts) : datum.obstacle? = none := by
  unfold perform at path
  split at path
  · obtain ⟨given, front, back, guarded, rest, rfl⟩ := path_bind_iff.mp path
    obtain ⟨-, same⟩ := path_pure_iff.mp rest
    match given with
    | .error error => cases same
    | .ok .pending =>
      obtain rfl := Except.ok.inj same
      rfl
    | .ok (.data found) =>
      obtain rfl := Except.ok.inj same
      obtain ⟨before, middle, behind, rfl, started⟩ := guarded_data guarded
      obtain rfl := path_query_iff.mp started
      exact converts ⟨.memory (.get key), .returned datum⟩ (by simp) datum rfl
  · cases (path_pure_iff.mp path).2

theorem read_reported {key : String} {result : Except Stop Value}
    (path : Path (access.read key) asked result)
    (converts : ∀ exchange ∈ asked, exchange.Converts) : Reported result := by
  obtain ⟨given, front, back, performed, rest, rfl⟩ := path_bind_iff.mp path
  cases given with
  | error fault =>
    obtain ⟨-, rfl⟩ := path_pure_iff.mp rest
    exact .error id
  | ok datum =>
    obtain ⟨-, rfl⟩ := path_pure_iff.mp rest
    have fine := perform_converts performed fun exchange member =>
      converts exchange (List.mem_append_left _ member)
    rw [Datum.convert_of_value fine]
    exact .ok _

/-- So are all values of declared variables. -/
theorem hydrate_reported {slots : List (String × Slot)}
    {result : Except Stop (List (String × Value))} (path : Path (access.hydrate slots) asked result)
    (converts : ∀ exchange ∈ asked, exchange.Converts) :
    Reported result := by
  induction slots generalizing asked result with
  | nil =>
    obtain ⟨-, rfl⟩ := path_pure_iff.mp path
    exact .ok _
  | cons slot rest ih =>
    obtain ⟨given, front, back, first, later, rfl⟩ := path_bind_iff.mp path
    have one := read_reported first fun exchange member =>
      converts exchange (List.mem_append_left _ member)
    cases given with
    | error stop =>
      obtain ⟨-, rfl⟩ := path_pure_iff.mp later
      exact .error (one stop rfl)
    | ok value =>
      obtain ⟨values, front', back', others, last, rfl⟩ := path_bind_iff.mp later
      have more := ih others fun exchange member => converts exchange (by simp [member])
      cases values with
      | error stop =>
        obtain ⟨-, rfl⟩ := path_pure_iff.mp last
        exact .error (more stop rfl)
      | ok values =>
        obtain ⟨-, rfl⟩ := path_pure_iff.mp last
        exact .ok _

end MemoryAccess

end BotScript
