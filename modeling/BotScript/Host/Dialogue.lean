import BotScript.Datum.Basic
import BotScript.Run.Trace
import BotScript.Tool.Catalogue

/-!
Computations that ask their host. A run never acts on the world itself: it asks for the time, for a
tool, for the memory, and it waits for each answer. So a host can be anything that answers
questions, and two runs can take turns.
-/

namespace BotScript

/-- What a host sees on its clock and whether it wants the run to end. -/
structure Moment where
  now : Binary64
  cancelled : Bool

/-- An error that the host's code raises. -/
inductive HostError
  /-- An error that runs know; it passes through unchanged. -/
  | runtime (fault : Fault)
  /-- A complaint about some program text. -/
  | grammar (message : String) (place : Place)
  | other (typeName text : String)
deriving DecidableEq, Repr

namespace HostError

/-- The error that host data raises where a value is needed. -/
def ofObstacle (obstacle : Datum.Obstacle) : HostError :=
  other obstacle.typeName obstacle.message

/-- The name of an error's class. -/
def typeName : HostError → String
  | runtime fault => fault.cause.kind.name
  | grammar .. => ErrorKind.grammar.name
  | other typeName _ => typeName

/-- The text of an error. -/
def text : HostError → String
  | runtime fault => fault.cause.message ++ fault.place.suffix
  | grammar message place => message ++ place.suffix
  | other _ text => text

end HostError

/-- What comes of work that the host does. -/
inductive Completion
  | returned (datum : Datum)
  /-- The work gives back more work, which is to be awaited. -/
  | pending
  | raised (error : HostError)
  /-- The work cancels itself. -/
  | withdrawn
  /-- The work does not end by itself. -/
  | hung

/-- A call of the memory. -/
inductive MemoryCall
  | get (key : String)
  | set (key : String) (value : Value)
  | append (key : String) (value : Value)

namespace MemoryCall

def method : MemoryCall → String
  | get _ => "get"
  | set _ _ => "set"
  | append _ _ => "append"

def key : MemoryCall → String
  | get key | set key _ | append key _ => key

end MemoryCall

/-- What a run asks of its host. -/
inductive Query
  | observe
  | tool (tool : Tool) (args : List (String × Value))
  /-- The rest of a tool's work, when the tool gave some back. -/
  | awaitTool (tool : Tool)
  | memory (call : MemoryCall)
  /-- A statement has ended. -/
  | stepEnded (step : Step)

/-- The answer to a query. The host says of a statement whether it could be told without an
error. -/
abbrev Query.Answer : Query → Type
  | observe => Moment
  | tool .. => Completion
  | awaitTool _ => Completion
  | memory _ => Completion
  | stepEnded _ => Bool

/-- A computation that ends with a result or asks a query and goes on with the answer. -/
inductive Dialogue (α : Type) : Type
  | done (a : α)
  | ask (query : Query) (next : query.Answer → Dialogue α)

namespace Dialogue

variable {α β γ : Type}

/-- One computation after the other. -/
def bind : Dialogue α → (α → Dialogue β) → Dialogue β
  | done a, f => f a
  | ask query next, f => ask query fun answer => bind (next answer) f

instance : Monad Dialogue where
  pure := done
  bind := bind

@[simp] theorem pure_eq (a : α) : (pure a : Dialogue α) = done a := rfl

@[simp] theorem done_bind (a : α) (f : α → Dialogue β) : done a >>= f = f a := rfl

@[simp] theorem ask_bind (query : Query) (next : query.Answer → Dialogue α) (f : α → Dialogue β) :
    ask query next >>= f = ask query fun answer => next answer >>= f := rfl

theorem bind_done (d : Dialogue α) : d >>= done = d := by
  induction d with
  | done a => rfl
  | ask query next ih => simp [ih]

theorem bind_assoc (d : Dialogue α) (f : α → Dialogue β) (g : β → Dialogue γ) :
    d >>= f >>= g = d >>= fun a => f a >>= g := by
  induction d with
  | done a => rfl
  | ask query next ih => simp [ih]

instance : LawfulMonad Dialogue :=
  LawfulMonad.mk' Dialogue bind_done done_bind bind_assoc

/-- One query. -/
def query (q : Query) : Dialogue q.Answer :=
  ask q done

end Dialogue

/-- Something that answers queries and changes as it does. -/
structure Host (σ : Type) where
  answer : (q : Query) → σ → q.Answer × σ

namespace Dialogue

variable {α β σ : Type}

/-- A computation run to its end with a host. -/
def run (host : Host σ) : Dialogue α → σ → α × σ
  | done a, world => (a, world)
  | ask query next, world =>
    match host.answer query world with
    | (answer, world) => run host (next answer) world

@[simp] theorem run_done (host : Host σ) (a : α) (world : σ) :
    (done a).run host world = (a, world) := rfl

theorem run_bind (host : Host σ) (d : Dialogue α) (f : α → Dialogue β) (world : σ) :
    (d >>= f).run host world = (f (d.run host world).1).run host (d.run host world).2 := by
  induction d generalizing world with
  | done a => rfl
  | ask query next ih => exact ih _ _

end Dialogue

end BotScript
