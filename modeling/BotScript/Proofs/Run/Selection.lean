import BotScript.Run.Selection

/-! Which handler answers an event: the first one for the event whose guard is true, when every
guard before it is false. A guard that fails or is no boolean ends the choice, unless a handler
before it answers. Handlers for other events, and those behind the one that answers, have no part in
it, and neither have they in which bot runs. -/

namespace BotScript

/-- Which bot runs is a matter of the names alone. -/
theorem Program.selectBot_map (f : Bot → Bot) (names : ∀ bot, (f bot).name = bot.name)
    (program : Program) (settings : Settings) (name : Option String) :
    (⟨program.bots.map f⟩ : Program).selectBot settings name =
      (program.selectBot settings name).map f := by
  have named : (⟨program.bots.map f⟩ : Program).botNames = program.botNames := by
    simp [botNames, Function.comp_def, names]
  cases name with
  | some name =>
    have found : (program.bots.map f).find? (·.name = name) =
        (program.bots.find? (·.name = name)).map f := by
      rw [List.find?_map]
      simp only [Function.comp_def, names]
    simp only [selectBot, found, named]
    cases program.bots.find? (·.name = name) <;> rfl
  | none =>
    obtain ⟨bots⟩ := program
    match bots with
    | [] => rfl
    | [bot] => rfl
    | bot :: next :: rest =>
      change (if settings.requireSingleBot then _ else _) =
        Except.map f (if settings.requireSingleBot then _ else _)
      split
      · exact congrArg (fun names => Except.error (Cause.severalBots names)) named
      · rfl

namespace Handler

variable {env : Environment} {handler : Handler} {event : String}

/-- A handler without a guard, or with one that is true. -/
def Passes (env : Environment) (handler : Handler) : Prop :=
  ∀ guard ∈ handler.guard, guard.evaluate env = .ok (.boolean true)

/-- A handler with a guard that is false. -/
def Refuses (env : Environment) (handler : Handler) : Prop :=
  ∃ guard ∈ handler.guard, guard.evaluate env = .ok (.boolean false)

end Handler

theorem Expr.condition_eq_ok {env : Environment} {expr : Expr} {context : String} {b : Bool} :
    expr.condition env context = .ok b ↔ expr.evaluate env = .ok (.boolean b) := by
  unfold Expr.condition
  cases expr.evaluate env with
  | error stop => simp [bind, Except.bind]
  | ok value =>
    cases value with
    | boolean other =>
      change (Except.ok other : Except Stop Bool) = .ok b ↔ _
      simp
    | _ =>
      change (Except.error _ : Except Stop Bool) = .ok b ↔ _
      simp

namespace Bot

variable {env : Environment} {handler : Handler} {handlers : List Handler}
  {event : String} {first : Nat}

/-- A handler answers when it is for the event and its guard is not in the way. -/
theorem accepts_eq_true :
    accepts env event handler = .ok true ↔ handler.event = event ∧ handler.Passes env := by
  unfold accepts Handler.Passes
  split
  · rename_i other
    simp [other]
  · rename_i same
    rw [ne_eq, Decidable.not_not] at same
    cases handler.guard with
    | none => simp [same]
    | some guard => simp [same, Expr.condition_eq_ok]

theorem firstAccepting_nil : firstAccepting env event first [] = .ok none := rfl

/-- The first of several handlers decides, or else those behind it. -/
theorem firstAccepting_cons : firstAccepting env event first (handler :: handlers) =
    match accepts env event handler with
    | .error stop => .error stop
    | .ok true => .ok (some (first, handler))
    | .ok false => firstAccepting env event (first + 1) handlers := by
  rw [firstAccepting]
  cases accepts env event handler with
  | error stop => rfl
  | ok holds => cases holds <;> rfl

/-- A handler with some property that no handler before it keeps from being looked at. -/
def Comes (env : Environment) (event : String) (handlers : List Handler)
    (holds : Nat → Handler → Prop) : Prop :=
  ∃ offset handler, handlers[offset]? = some handler ∧ holds offset handler ∧
    ∀ earlier ∈ handlers.take offset, accepts env event earlier = .ok false

/-- Such a handler is the first one, or it comes behind the first one when that does not answer. -/
theorem comes_cons {holds : Nat → Handler → Prop} :
    Comes env event (handler :: handlers) holds ↔
      holds 0 handler ∨
        (accepts env event handler = .ok false ∧
        Comes env event handlers fun offset => holds (offset + 1)) := by
  constructor
  · rintro ⟨offset, found, listed, held, before⟩
    cases offset with
    | zero =>
      obtain rfl := Option.some.inj listed
      exact .inl held
    | succ offset =>
      obtain ⟨refused, before⟩ := List.forall_mem_cons.mp before
      exact .inr ⟨refused, offset, found, listed, held, before⟩
  · rintro (held | ⟨refused, offset, found, listed, held, before⟩)
    · exact ⟨0, handler, rfl, held, nofun⟩
    · exact ⟨offset + 1, found, listed, held, List.forall_mem_cons.mpr ⟨refused, before⟩⟩

theorem not_comes_nil {holds : Nat → Handler → Prop} : ¬Comes env event [] holds := by
  rintro ⟨_, _, listed, -⟩
  cases listed

theorem firstAccepting_eq_some {index : Nat} {chosen : Handler} :
    firstAccepting env event first handlers = .ok (some (index, chosen)) ↔
      Comes env event handlers fun offset handler =>
        accepts env event handler = .ok true ∧ index = first + offset ∧ chosen = handler := by
  induction handlers generalizing first with
  | nil => simp [firstAccepting_nil, not_comes_nil]
  | cons handler rest ih =>
    rw [firstAccepting_cons, comes_cons]
    cases accepts env event handler with
    | error stop => simp
    | ok holds =>
      cases holds with
      | true => simp [eq_comm]
      | false => simp [ih, Nat.add_assoc, Nat.add_comm 1]

theorem firstAccepting_eq_error {stop : Stop} :
    firstAccepting env event first handlers = .error stop ↔
      Comes env event handlers fun _ handler => accepts env event handler = .error stop := by
  induction handlers generalizing first with
  | nil => simp [firstAccepting_nil, not_comes_nil]
  | cons handler rest ih =>
    rw [firstAccepting_cons, comes_cons]
    cases accepts env event handler with
    | error stop => simp
    | ok holds => cases holds <;> simp [ih]

/-- No handler among some answers an event: the guards of those for the event are all false. -/
def Silent (env : Environment) (event : String) (handlers : List Handler) : Prop :=
  ∀ handler ∈ handlers, handler.event = event → handler.Refuses env

/-- The handlers for an event, in their order. -/
def answering (event : String) (handlers : List Handler) : List Handler :=
  handlers.filter (·.event = event)

/-- Other handlers leave a choice as it is: those for the event begin with the ones up to the
handler that was chosen, or are all the same when none was. -/
def Agree (event : String) (chosen : Option Nat) (handlers others : List Handler) : Prop :=
  match chosen with
  | some index => answering event (handlers.take (index + 1)) <+: answering event others
  | none => answering event others = answering event handlers

variable {bot other : Bot}

end Bot

end BotScript
