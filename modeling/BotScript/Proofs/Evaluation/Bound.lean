import BotScript.Evaluation.Environment

/-! Which variables are bound. A binding takes none away, and a loop that puts the binding of its
item back leaves every variable bound that was bound before it and inside it. -/

namespace BotScript.Environment

variable {env other : Environment} {names : List String}

/-- All of some variables are bound. -/
def Binds (env : Environment) (names : List String) : Prop :=
  ∀ name ∈ names, env.has name

/-- Values bound one after the other. -/
def bindValues (env : Environment) : List (String × Value) → Environment
  | [] => env
  | (name, value) :: rest => (env.bind name value).bindValues rest

theorem get?_restore (env other : Environment) (item name : String) :
    (other.restore (env.save item)).get? name =
      if variableName item = variableName name then env.get? item else other.get? name := by
  unfold restore save
  dsimp only
  cases kept : env.get? item with
  | some value => exact Entries.get?_put other.bindings _ _ value
  | none => exact Entries.get?_erase other.bindings _ _

theorem Binds.append {more : List String} (binds : env.Binds names) (others : env.Binds more) :
    env.Binds (names ++ more) :=
  List.forall_mem_append.mpr ⟨binds, others⟩

theorem Binds.bind (binds : env.Binds names) (name : String) (value : Value) :
    (env.bind name value).Binds names := by
  intro wanted member
  have bound := binds wanted member
  unfold has at bound ⊢
  rw [get?_bind]
  split
  · rfl
  · exact bound

theorem has_bind (env : Environment) (name : String) (value : Value) :
    (env.bind name value).has name := by
  unfold has
  rw [get?_bind, if_pos rfl]
  rfl

theorem Binds.restore (before : env.Binds names) (inside : other.Binds names) (item : String) :
    (other.restore (env.save item)).Binds names := by
  intro name member
  have outer := before name member
  have inner := inside name member
  unfold has at outer inner ⊢
  rw [get?_restore]
  split
  · rename_i same
    have one : env.get? item = env.get? name := congrArg (Entries.get? env.bindings) same
    rw [one]
    exact outer
  · exact inner

theorem Binds.bindAll {bindings : List (String × Datum)} {bound : Environment}
    (binds : env.Binds names) (given : env.bindAll bindings = .ok bound) :
    bound.Binds (names ++ bindings.map Prod.fst) := by
  induction bindings generalizing env names with
  | nil =>
    obtain rfl := Except.ok.inj given
    simpa using binds
  | cons binding rest ih =>
    rw [Environment.bindAll] at given
    cases converted : binding.2.convert with
    | error obstacle =>
      rw [converted] at given
      cases given
    | ok value =>
      rw [converted] at given
      have first : (env.bind binding.1 value).Binds (names ++ [binding.1]) :=
        (binds.bind binding.1 value).append
        (List.forall_mem_singleton.mpr (has_bind env binding.1 value))
      simpa using ih first given

theorem Binds.bindValues (binds : env.Binds names) (values : List (String × Value)) :
    (env.bindValues values).Binds (names ++ values.map Prod.fst) := by
  induction values generalizing env names with
  | nil =>
    rw [Environment.bindValues, List.map_nil, List.append_nil]
    exact binds
  | cons pair rest ih =>
    have first : (env.bind pair.1 pair.2).Binds (names ++ [pair.1]) :=
      (binds.bind pair.1 pair.2).append (List.forall_mem_singleton.mpr (has_bind env pair.1 pair.2))
    rw [Environment.bindValues, List.map_cons, List.append_cons]
    exact ih first

end BotScript.Environment
