import BotScript.Check.Mentions
import BotScript.Proofs.Evaluation.Readable
import BotScript.Proofs.Syntax.Variables

/-! Which variables an evaluation can miss. Every evaluation that fails for an unbound variable has
read it where the expression needs it: the left side of `??` needs none, and no other failure is
about variables. -/

namespace BotScript

/-- The failure is about an unbound variable. -/
def Trouble.IsUnbound : Trouble → Prop
  | cause facts => facts.kind = .unbound
  | numeral _ => False

/-- The failure is about an unbound variable, and none of some reads is one of it. -/
def Trouble.IsUnread (env : Environment) (reads : List (String × Position)) (trouble : Trouble) :
    Prop :=
  trouble.IsUnbound ∧
    ∀ name bound, trouble = .cause (.unbound name bound) →
      ∀ read ∈ reads, Environment.variableName read.1 = name → env.get? read.1 ≠ none

variable {env : Environment}

theorem Trouble.IsUnread.anti {reads more : List (String × Position)} (subset : reads ⊆ more)
    {trouble : Trouble} (unread : trouble.IsUnread env more) : trouble.IsUnread env reads :=
  ⟨unread.1, fun name bound same read member => unread.2 name bound same read (subset member)⟩

namespace Value

theorem property_bound (value : Value) (field label : String) :
    Avoids Trouble.IsUnbound (value.property field label) := by
  intro failure failed unbound
  unfold property at failed
  repeat' split at failed
  all_goals cases failed
  all_goals cases unbound

theorem asBoolean_bound (value : Value) (context : String) :
    Avoids Trouble.IsUnbound ((value.asBoolean context).mapError .cause) := by
  intro failure failed unbound
  cases value <;> cases failed <;> cases unbound

theorem contains_bound (value needle : Value) :
    Avoids Trouble.IsUnbound ((value.contains needle).mapError .cause) := by
  intro failure failed unbound
  unfold contains at failed
  repeat' split at failed
  all_goals cases failed
  all_goals cases unbound

end Value

namespace Expr

theorem readsAll_eq (items : List Expr) : readsAll items = items.flatMap reads := by
  induction items with
  | nil => rfl
  | cons item rest ih => rw [readsAll, ih, List.flatMap_cons]

theorem readsEntries_eq (entries : List (String × Expr)) :
    readsEntries entries = entries.flatMap (·.2.reads) := by
  induction entries with
  | nil => rfl
  | cons entry rest ih => rw [readsEntries, ih, List.flatMap_cons]

/-- A part that is always evaluated reads nothing but what the whole reads. -/
theorem reads_subset_all {items : List Expr} {item : Expr} (member : item ∈ items) :
    item.reads ⊆ readsAll items := by
  rw [readsAll_eq]
  exact fun _ needs => List.mem_flatMap_of_mem member needs

theorem mem_readsSegments {segments : List Segment} {read : String × Position} :
    read ∈ readsSegments segments ↔ ∃ e, .hole e ∈ segments ∧ read ∈ e.reads := by
  induction segments with
  | nil => simp [readsSegments]
  | cons segment rest ih =>
    cases segment with
    | text s => simp [readsSegments, ih]
    | hole expr => simp [readsSegments, ih, or_and_right, exists_or]

variable {named field : String → Prop} {e : Expr} {needed : List (String × Position)}

/-- A part of an expression misses at most what the whole reads. -/
theorem avoids_unread (subset : e.reads ⊆ needed)
    (avoids : Avoids (Trouble.IsUnread env e.reads) (eval env e)) :
    Avoids (Trouble.IsUnread env needed) (eval env e) :=
  avoids.mono fun _ unread => unread.anti subset

/-- What is not about variables misses none. -/
theorem avoids_bound {α : Type} {result : Except Trouble α}
    (bound : Avoids Trouble.IsUnbound result) :
    Avoids (Trouble.IsUnread env needed) result :=
  bound.mono fun _ unread => unread.1

/-- `??` keeps no failure of its left side that is about an unbound variable. -/
theorem not_unbound_of_not_replaced {result : Except Trouble Value}
    (kept : isReplaced result = false) :
    Avoids Trouble.IsUnbound result := by
  rintro failure rfl unbound
  cases failure with
  | cause facts =>
    have unbound : facts.kind = .unbound := unbound
    simp [isReplaced, Cause.isMissing, unbound] at kept
  | numeral _ => exact unbound

/-- An evaluation that fails for an unbound variable has read it where the expression needs it. -/
theorem Spelled.eval_unread (spelled : e.Spelled named field) (env : Environment) :
    Avoids (Trouble.IsUnread env e.reads) (eval env e) := by
  induction spelled with
  | literal p flat => simp [eval]
  | list all ih =>
    rw [eval, reads]
    refine (evalAll_avoids fun item member => ?_).bind fun values _ => .ok _
    exact avoids_unread (reads_subset_all member) (ih item member)
  | object all ih =>
    rw [eval]
    refine (evalEntries_avoids fun entry member => ?_).bind fun values _ => .ok _
    refine avoids_unread (fun read needs => ?_) (ih entry member)
    rw [reads, readsEntries_eq]
    exact List.mem_flatMap.mpr ⟨entry, member, needs⟩
  | @reference name p plain =>
    rw [eval]
    intro failure failed unread
    unfold Environment.resolve at failed
    split at failed
    · cases failed
    · rename_i nothing
      obtain rfl := Except.error.inj failed
      exact unread.2 _ _ rfl (name, p) List.mem_cons_self rfl nothing
  | property inner fields ih =>
    rw [eval]
    refine ih.bind fun base _ => readPath_avoids (fun field _ value label => ?_) base _
    exact avoids_bound (value.property_bound field label)
  | template holes ih =>
    rw [eval]
    refine (evalSegments_avoids fun expr member => ?_).bind fun texts _ => .ok _
    refine avoids_unread (fun read needs => ?_) (ih expr member)
    rw [reads]
    exact mem_readsSegments.mpr ⟨expr, member, needs⟩
  | contains first second ihFirst ihSecond =>
    rw [eval, reads]
    refine Avoids.bind (avoids_unread (List.subset_append_left _ _) ihFirst) fun left _ => ?_
    refine Avoids.bind (avoids_unread (List.subset_append_right _ _) ihSecond) fun right _ => ?_
    exact (avoids_bound (left.contains_bound right)).bind fun held _ => .ok _
  | junction all ih =>
    rw [eval, reads]
    refine (evalJunction_avoids (fun operand member => ?_) fun value context => ?_).bind
      fun held _ => .ok _
    · exact avoids_unread (reads_subset_all member) (ih operand member)
    · exact avoids_bound (value.asBoolean_bound context)
  | negation inner ih =>
    rw [eval]
    exact ih.bind fun value _ => (avoids_bound (value.asBoolean_bound _)).bind fun b _ => .ok _
  | equals first second ihFirst ihSecond =>
    rw [eval, reads]
    refine Avoids.bind (avoids_unread (List.subset_append_left _ _) ihFirst) fun left _ => ?_
    exact Avoids.bind (avoids_unread (List.subset_append_right _ _) ihSecond) fun right _ => .ok _
  | concat all ih =>
    rw [eval, reads]
    refine (evalShown_avoids fun part member => ?_).bind fun texts _ => .ok _
    exact avoids_unread (reads_subset_all member) (ih part member)
  | coalesce first second ihFirst ihSecond =>
    rw [eval]
    split
    · exact ihSecond
    · rename_i kept
      exact avoids_bound (not_unbound_of_not_replaced (Bool.not_eq_true _ ▸ kept))

/-- All variables that an expression needs have names of the sort of its names. -/
theorem Spelled.named_of_reads (spelled : e.Spelled named field) :
    ∀ read ∈ e.reads, named read.1 := by
  induction spelled with
  | literal p flat => exact List.forall_mem_nil _
  | list all ih | junction all ih | concat all ih =>
    intro read needed
    rw [reads, readsAll_eq] at needed
    obtain ⟨item, member, needs⟩ := List.mem_flatMap.mp needed
    exact ih item member read needs
  | object all ih =>
    intro read needed
    rw [reads, readsEntries_eq] at needed
    obtain ⟨entry, member, needs⟩ := List.mem_flatMap.mp needed
    exact ih entry member read needs
  | reference p plain => exact List.forall_mem_singleton.mpr plain
  | property inner fields ih => exact ih
  | template holes ih =>
    intro read needed
    rw [reads] at needed
    obtain ⟨expr, member, needs⟩ := mem_readsSegments.mp needed
    exact ih expr member read needs
  | contains first second ihFirst ihSecond | equals first second ihFirst ihSecond =>
    rw [reads]
    exact List.forall_mem_append.mpr ⟨ihFirst, ihSecond⟩
  | negation inner ih => exact ih
  | coalesce first second ihFirst ihSecond => exact ihSecond

/-- An expression with plain names that fails for an unbound variable needs it, and nothing binds
it. -/
theorem Spelled.unbound {name : String} {bound : List String}
    (spelled : e.Spelled Environment.IsPlain field)
    (failed : eval env e = .error (.cause (.unbound name bound))) :
    (∃ p, (name, p) ∈ e.reads) ∧ env.get? name = none := by
  by_contra other
  refine spelled.eval_unread env _ failed ⟨rfl, ?_⟩
  rintro _ _ ⟨rfl⟩ ⟨read, p⟩ member same nothing
  have plain := spelled.named_of_reads _ member
  obtain rfl : read = name := plain.symm.trans same
  exact other ⟨⟨p, member⟩, nothing⟩

end Expr

/-! ## Evaluations in a run -/

/-- The cause of what ends a run, if results report it. -/
def Stop.cause? : Stop → Option Cause
  | fault f => some f.cause
  | escape _ => none

@[simp] theorem Stop.cause?_locate (stop : Stop) (p : Position) :
    (stop.locate p).cause? = stop.cause? := by
  cases stop <;> rfl

namespace Expr

variable {e : Expr} {stop : Stop} {name : String} {bound : List String}

/-- The evaluation of an expression fails for an unbound variable. -/
def Misses (env : Environment) (e : Expr) (name : String) (bound : List String) : Prop :=
  eval env e = .error (.cause (.unbound name bound))

theorem misses_of_evaluate (failed : evaluate env e = .error stop)
    (unbound : stop.cause? = some (.unbound name bound)) :
    e.Misses env name bound := by
  unfold evaluate at failed
  unfold Misses
  cases given : eval env e with
  | ok value =>
    rw [given] at failed
    cases failed
  | error trouble =>
    rw [given] at failed
    obtain rfl := Except.error.inj failed
    cases trouble with
    | cause facts =>
      obtain rfl : facts = .unbound name bound := Option.some.inj unbound
      rfl
    | numeral _ => cases unbound

theorem misses_of_render (failed : render env e = .error stop)
    (unbound : stop.cause? = some (.unbound name bound)) :
    e.Misses env name bound := by
  unfold render at failed
  cases given : evaluate env e with
  | ok value =>
    rw [given] at failed
    cases failed
  | error first =>
    rw [given] at failed
    obtain rfl := Except.error.inj failed
    exact misses_of_evaluate given unbound

theorem misses_of_condition {context : String} (failed : condition env e context = .error stop)
    (unbound : stop.cause? = some (.unbound name bound)) : e.Misses env name bound := by
  unfold condition at failed
  cases given : evaluate env e with
  | ok value =>
    -- what is no boolean is no missing variable
    rw [given] at failed
    cases value <;> cases failed <;> cases unbound
  | error first =>
    rw [given] at failed
    obtain rfl := Except.error.inj failed
    exact misses_of_evaluate given unbound

theorem misses_of_evaluateEntries {entries : List (String × Expr)}
    (failed : evaluateEntries env entries = .error stop)
    (unbound : stop.cause? = some (.unbound name bound)) :
    ∃ entry ∈ entries, entry.2.Misses env name bound := by
  induction entries with
  | nil => cases failed
  | cons entry rest ih =>
    rw [evaluateEntries] at failed
    cases given : evaluate env entry.2 with
    | error first =>
      rw [given] at failed
      obtain rfl := Except.error.inj failed
      exact ⟨entry, List.mem_cons_self, misses_of_evaluate given unbound⟩
    | ok value =>
      rw [given] at failed
      cases others : evaluateEntries env rest with
      | ok values =>
        rw [others] at failed
        cases failed
      | error later =>
        rw [others] at failed ih
        obtain rfl := Except.error.inj failed
        obtain ⟨missing, member, misses⟩ := ih rfl
        exact ⟨missing, List.mem_cons_of_mem _ member, misses⟩

/-- `??` fails for an unbound variable only when its right side does. -/
theorem misses_of_coalesce {left right : Expr} {p : Position}
    (misses : (coalesce left right p).Misses env name bound) :
    right.Misses env name bound := by
  unfold Misses at misses ⊢
  rw [eval] at misses
  split at misses
  · exact misses
  · rename_i kept
    exact absurd rfl (not_unbound_of_not_replaced (Bool.not_eq_true _ ▸ kept) _ misses)

end Expr

end BotScript
