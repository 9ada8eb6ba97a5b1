import BotScript.Host.Dialogue

/-!
Computations that show how things stand whenever they ask their host. The host hears the questions
only; what is shown with them tells an onlooker what a run had come to when its host acted.
-/

namespace BotScript

/-- A computation that ends with a result or shows how things stand, asks a query and goes on with
the answer. -/
inductive Narrative (σ α : Type) : Type
  | done (a : α)
  | ask (standing : σ) (query : Query) (next : query.Answer → Narrative σ α)

namespace Narrative

variable {σ α β γ : Type}

/-- One computation after the other. -/
def bind : Narrative σ α → (α → Narrative σ β) → Narrative σ β
  | done a, f => f a
  | ask standing query next, f => ask standing query fun answer => bind (next answer) f

instance : Monad (Narrative σ) where
  pure := done
  bind := bind

@[simp] theorem pure_eq (a : α) : (pure a : Narrative σ α) = done a := rfl

@[simp] theorem done_bind (a : α) (f : α → Narrative σ β) : done a >>= f = f a := rfl

@[simp] theorem ask_bind (standing : σ) (query : Query) (next : query.Answer → Narrative σ α)
    (f : α → Narrative σ β) :
    ask standing query next >>= f = ask standing query fun answer => next answer >>= f := rfl

theorem bind_assoc (narrative : Narrative σ α) (f : α → Narrative σ β) (g : β → Narrative σ γ) :
    narrative >>= f >>= g = narrative >>= fun a => f a >>= g := by
  induction narrative with
  | done a => rfl
  | ask standing query next ih => simp [ih]

/-- The questions alone, as the host hears them. -/
def plain : Narrative σ α → Dialogue α
  | done a => .done a
  | ask _ query next => .ask query fun answer => plain (next answer)

/-- A dialogue during which nothing changes. -/
def of (standing : σ) : Dialogue α → Narrative σ α
  | .done a => done a
  | .ask query next => ask standing query fun answer => of standing (next answer)

/-- A computation as part of a larger one, whose own state stands behind what is shown. -/
def within (enclose : σ → σ) : Narrative σ α → Narrative σ α
  | done a => done a
  | ask standing query next => ask (enclose standing) query fun answer =>
    within enclose (next answer)

@[simp] theorem plain_done (a : α) : (done a : Narrative σ α).plain = .done a := rfl

theorem plain_bind (narrative : Narrative σ α) (f : α → Narrative σ β) :
    (narrative >>= f).plain = narrative.plain >>= fun a => (f a).plain := by
  induction narrative with
  | done a => rfl
  | ask standing query next ih => simp [plain, ih]

@[simp] theorem plain_of (standing : σ) (dialogue : Dialogue α) :
    (of standing dialogue).plain = dialogue := by
  induction dialogue with
  | done a => rfl
  | ask query next ih => simp [of, plain, ih]

/-- The host does not notice what stands around a computation. -/
@[simp] theorem plain_within (enclose : σ → σ) (narrative : Narrative σ α) :
    (narrative.within enclose).plain = narrative.plain := by
  induction narrative with
  | done a => rfl
  | ask standing query next ih => simp [within, plain, ih]

end Narrative

end BotScript
