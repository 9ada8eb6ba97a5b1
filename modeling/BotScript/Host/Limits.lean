import BotScript.Host.Dialogue

/-!
The limits under which a run does its work. The limit of the whole run is checked between statements
and around every piece of work that the host does; a piece of work also has a limit of its own.
Cancellation is noticed at the same places and wins over both.
-/

namespace BotScript

/-- The limit of a whole run and the moment at which it is reached. -/
structure Deadline where
  limit : Binary64
  instant : Binary64

namespace Deadline

/-- The deadline of a run that starts at some time; a limit of zero is none. -/
def start? (limit : Option Binary64) (now : Binary64) : Option Deadline :=
  match limit with
  | none => none
  | some seconds => if seconds.eq .zero then none else some ⟨seconds, now.add seconds⟩

/-- The seconds that are left. -/
def remaining (deadline : Deadline) (now : Binary64) : Binary64 :=
  (deadline.instant.sub now).atLeastZero

end Deadline

/-- A run may go on: it is not cancelled and has time left. -/
def checkMoment (deadline : Option Deadline) (moment : Moment) (phase : Phase) :
    Except Cause Unit :=
  if moment.cancelled then .error (.cancelled phase)
  else
    match deadline with
    | none => .ok ()
    | some deadline =>
      if (deadline.remaining moment.now).le .zero then
        .error (.limitExceeded deadline.limit phase) else .ok ()

/-- What bounds a piece of work: the rest of the run's time when that is less than its own limit. -/
inductive Bound
  | none
  | own (limit : Binary64)
  | run (limit : Binary64)
deriving DecidableEq, Repr

/-- The bound of a piece of work that starts at some time. -/
def Bound.of (deadline : Option Deadline) (own : Option Binary64) (now : Binary64) : Bound :=
  match deadline, own with
  | .none, .none => .none
  | .none, some limit => .own limit
  | some deadline, .none => .run deadline.limit
  | some deadline, some limit =>
    if (deadline.remaining now).lt limit then .run deadline.limit else .own limit

/-- Why work that does not end by itself is given up. Work without a bound ends only by
cancellation. -/
def Bound.cause (bound : Bound) (cancelled : Bool) (work : String) : Cause :=
  if cancelled then .cancelled (.during work)
  else
    match bound with
    | .none => .cancelled (.during work)
    | .own limit => .callTimedOut work limit
    | .run limit => .limitExceeded limit (.during work)

/-- What work comes to that ends by itself: data, or more work to wait for. -/
inductive Yield
  | data (datum : Datum)
  | pending

namespace Dialogue

/-- A failure that the limits give. -/
def refuse {α : Type} (cause : Cause) : Dialogue (Except HostError α) :=
  done (.error (.runtime (Fault.of cause)))

/-- Something that work came to, unless the run may not go on after it. -/
def accept (deadline : Option Deadline) (work : String) (result : Yield) :
    Dialogue (Except HostError Yield) := do
  let moment ← query .observe
  match checkMoment deadline moment (.after work) with
  | .error cause => refuse cause
  | .ok () => return .ok result

/-- The outcome of work under its bound. -/
def settle (deadline : Option Deadline) (bound : Bound) (work : String) :
    Completion → Dialogue (Except HostError Yield)
  | .returned datum => accept deadline work (.data datum)
  | .pending => accept deadline work .pending
  | .raised error => done (.error error)
  | .withdrawn => do
    let moment ← query .observe
    if moment.cancelled then refuse (.cancelled (.during work))
    else return .error (.other "RuntimeError" s!"{work} was cancelled from inside")
  | .hung => do
    let moment ← query .observe
    refuse (bound.cause moment.cancelled work)

/-- Work done under the limits. It is not started when the run may not go on. -/
def guarded (deadline : Option Deadline) (own : Option Binary64) (work : String)
    (start : Dialogue Completion) :
    Dialogue (Except HostError Yield) := do
  let moment ← query .observe
  match checkMoment deadline moment (.before work) with
  | .error cause => refuse cause
  | .ok () =>
    let bound := Bound.of deadline own moment.now
    let completion ← start
    settle deadline bound work completion

end Dialogue

end BotScript
