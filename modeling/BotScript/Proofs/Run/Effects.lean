import BotScript.Proofs.Run.Coherence

/-! Every effect of a run is accounted for by a record. Each record that ended well stands for
exactly one entry of the transcript, one run of a tool or one call of the memory, where one is due,
and in the same order; a failure leaves at most one more of each, and it belongs to the innermost
statement that failed. -/

namespace BotScript

open Exchange

namespace Entries

/-- Pairs written one after the other leave their keys in the order in which they were first
written. -/
theorem keys_ofList {κ α : Type} [DecidableEq κ] (pairs : List (κ × α)) :
    keys (ofList pairs) = (keys pairs).eraseDups := by
  induction pairs using List.reverseRecOn with
  | nil => rfl
  | append_singleton front last ih =>
    have written : ofList (front ++ [last]) = put (ofList front) last.1 last.2 := by
      simp [ofList, putAll]
    have listed : keys (front ++ [last]) = keys front ++ [last.1] := by simp [keys]
    rw [written, keys_put, ih, listed, List.eraseDups_append]
    by_cases known : last.1 ∈ keys front
    · simp [known, List.cons_removeAll]
    · simp [known, List.cons_removeAll, List.eraseDups_cons]

end Entries

namespace Trail

variable {α : Type} {due : Step → Bool} {fits : Step → α → Prop} {part : Deeds → List α}

/-- Each record accounts for one part of its statement's deeds, and a statement with others inside
has no such part. -/
def Each (due : Step → Bool) (fits : Step → α → Prop) (part : Deeds → List α) : Trail → Prop
  | done => True
  | step record deeds inside later =>
    Step.Once record (due record) (fits record) (part deeds) ∧
      (inside = .done ∨ due record = false) ∧
      inside.Each due fits part ∧ later.Each due fits part

/-- The statement ended well and a deed is due. -/
def settles (due : Step → Bool) (record : Step) : Bool :=
  record.outcome = .ok && due record

/-- The deeds are those of the records that ended well, and perhaps one of the last record that did
not. -/
def Covers (due : Step → Bool) (fits : Step → α → Prop) (records : List Step) (deeds : List α) :
    Prop :=
  ∃ further : List Step, List.Forall₂ fits (records.filter (settles due) ++ further) deeds ∧
    (further = [] ∨ ∃ last, further = [last] ∧ (records.filter isBroken).getLast? = some last)

/-- The parts of deeds add up as the deeds do. -/
structure Additive (part : Deeds → List α) : Prop where
  none : part .none = []
  append : ∀ first second, part (first.append second) = part first ++ part second

theorem additive_transcript : Additive Deeds.transcript := ⟨rfl, fun _ _ => rfl⟩

theorem additive_runs : Additive Deeds.runs := ⟨rfl, fun _ _ => rfl⟩

theorem additive_calls : Additive Deeds.calls := ⟨rfl, fun _ _ => rfl⟩

theorem filter_settles_cons (record : Step) (records : List Step) :
    (record :: records).filter (settles due) = (if settles due record then [record] else []) ++
      records.filter (settles due) := by
  rw [List.filter_cons]
  split <;> rfl

/-- A statement that ended well has done what was due, in front of what is done for other
records. -/
theorem settled_in_front {record : Step} {records : List Step} {own others : List α}
    (once : Step.Once record (due record) (fits record) own) (ended : record.outcome = .ok)
    (behind : List.Forall₂ fits records others) :
    List.Forall₂ fits ((if settles due record then [record] else []) ++ records)
      (own ++ others) := by
  cases once with
  | never spared => simpa [settles, ended, spared ended] using behind
  | once needed fit => simpa [settles, ended, needed, fit] using behind

/-- Where all statements ended well, each of them has done what was due. -/
theorem Each.of_succeeds (additive : Additive part) {trail : Trail}
    (each : trail.Each due fits part) (well : trail.Succeeds) :
    List.Forall₂ fits (trail.starts.filter (settles due)) (part trail.total) := by
  induction trail with
  | done =>
    rw [total, additive.none]
    exact .nil
  | step record deeds inside later within_inside within_later =>
    obtain ⟨once, -, deeper, further⟩ := each
    obtain ⟨ended, inner, rest⟩ := succeeds_step_iff.mp well
    have others := List.rel_append (within_inside deeper inner) (within_later further rest)
    rw [total, additive.append, additive.append, starts, filter_settles_cons, List.filter_append]
    exact settled_in_front once ended others

/-- Where a fault has ended the statements, at most one deed more is done. -/
theorem Each.of_fails (additive : Additive part) {fault : Fault} {trail : Trail}
    (fails : trail.Fails fault) (each : trail.Each due fits part) :
    Covers due fits trail.starts (part trail.total) := by
  induction fails with
  | between well =>
    refine ⟨[], ?_, .inl rfl⟩
    rw [List.append_nil]
    exact each.of_succeeds additive well
  | @within record deeds inside blamed placed deeper ih =>
    obtain ⟨once, alone, each, -⟩ := each
    obtain ⟨further, covered, last⟩ := ih each
    have broken : (step record deeds inside done).starts.filter isBroken =
      record :: inside.starts.filter isBroken :=
      broken_within blamed
    have stopped : settles due record = false := by
      have failed : isBroken record = true := ofFault_isBroken blamed
      simp_all [settles, isBroken]
    rw [Covers, broken, total, additive.append, additive.append, total, additive.none,
      List.append_nil]
    have passed : (step record deeds inside done).starts.filter (settles due) =
        inside.starts.filter (settles due) := by
      simp [starts, stopped]
    rw [passed]
    generalize part deeds = own at once ⊢
    cases once with
    | never spared =>
      refine ⟨further, by simpa using covered, last.imp_right ?_⟩
      rintro ⟨innermost, rfl, found⟩
      exact ⟨innermost, rfl, by simp [List.getLast?_cons, found]⟩
    | once needed fit =>
      obtain rfl := alone.resolve_right (by simp [needed])
      refine ⟨[record], ?_, .inr ⟨record, rfl, rfl⟩⟩
      simpa [starts, total, additive.none, settles] using fit
  | @later record deeds inside rest ended well further ih =>
    obtain ⟨once, -, deeper, each⟩ := each
    obtain ⟨more, covered, last⟩ := ih each
    have inner := deeper.of_succeeds additive well
    have broken : (step record deeds inside rest).starts.filter isBroken =
      rest.starts.filter isBroken :=
      broken_later ended well
    refine ⟨more, ?_, broken ▸ last⟩
    have others := List.rel_append inner covered
    rw [total, additive.append, additive.append, starts, filter_settles_cons, List.filter_append,
      List.append_assoc, List.append_assoc]
    exact settled_in_front once ended others

/-- How a trail ended, seen from its records. -/
theorem Each.covers (additive : Additive part) {ended : Except Stop Unit} {trail : Trail}
    (each : trail.Each due fits part) (ends : trail.Ends ended)
    (reported : ∀ escape, ended ≠ .error (.escape escape)) :
    Covers due fits trail.starts (part trail.total) := by
  match ended with
  | .ok () => exact ⟨[], by simpa using each.of_succeeds additive ends, .inl rfl⟩
  | .error (.fault fault) => exact Each.of_fails additive ends each
  | .error (.escape escape) => exact absurd rfl (reported escape)

/-- Records that account for all deeds account for each part of them. -/
theorem Accounted.each {catalogue : Catalogue} {slots : List (String × Slot)} {trail : Trail}
    (own : ∀ record deeds, Step.Accounts record catalogue slots deeds →
      Step.Once record (due record) (fits record) (part deeds))
    (idle : ∀ record : Step, record.kind = .branch ∨ record.kind = .loop → due record = false)
    (accounted : trail.Accounted catalogue slots)
    (nested : trail.Nested) : trail.Each due fits part := by
  induction trail with
  | done => exact trivial
  | step record deeds inside later within_inside within_later =>
    obtain ⟨accounts, deeper, further⟩ := accounted
    obtain ⟨composite, inner, rest⟩ := nested
    exact ⟨own record deeds accounts, composite.imp_right (idle record), within_inside deeper inner,
      within_later further rest⟩

end Trail

/-- The effects of a run are those that the records of its result account for. -/
structure RunResult.Accounted (result : RunResult) (request : RunRequest) (asked : List Exchange) :
    Prop where
  output : result.output = "\n".intercalate (result.transcript.filterMap Utterance.spoken?)
  transcript : Trail.Covers Step.speaks Step.Left result.steps result.transcript
  runs : Trail.Covers Step.runsTool (Step.Ran · request.catalogue) result.steps (toolRuns asked)
  /-- The declared variables are read before anything else calls the memory, all of them before a
  handler starts. -/
  calls : ∃ loaded others, memoryCalls asked = loaded ++ others ∧ loaded <+: request.loads ∧
    (result.success = true ∨ result.handler ≠ none → loaded = request.loads) ∧
    Trail.Covers Step.usesMemory (Step.Called · request.slots) result.steps others
  well : result.success = true → ∀ record ∈ result.steps, record.outcome = .ok
  /-- One variable is read for each declared name, in the order in which the names are first
  declared. -/
  declared : ∀ bot, request.chosen? = some bot →
      Entries.keys request.slots = bot.declaredNames.eraseDups
  /-- A run that has not come to a handler has done nothing else than to read declared variables. -/
  idle : result.handler = none → result.steps = [] ∧ result.transcript = [] ∧ toolRuns asked = [] ∧
    memoryCalls asked <+: request.loads

namespace RunRequest

variable {request : RunRequest}

theorem slots_names {bot : Bot} (chosen : request.chosen? = some bot) :
    Entries.keys request.slots = bot.declaredNames.eraseDups := by
  simp only [slots, chosen, Slot.ofBlocks, Entries.keys_ofList]
  congr 1
  simp [Entries.keys, Bot.declaredNames, List.map_flatMap, Function.comp_def]

/-- The course of a run that comes to a result accounts for all its effects. -/
theorem Course.accounts {ended : Except Stop Unit} {after : RunState} {asked : List Exchange}
    {trail : Trail} {failure : Option RunFailure} (course : request.Course asked ended after trail)
    (reported : ∀ escape, ended ≠ .error (.escape escape))
    (same : failure = none ↔ ended = .ok ()) :
    (request.resultOf failure after).Accounted request asked := by
  have each {α : Type} {due : Step → Bool} {fits : Step → α → Prop} {part : Deeds → List α}
      (additive : Trail.Additive part)
      (own : ∀ record deeds, Step.Accounts record request.catalogue request.slots deeds →
        Step.Once record (due record) (fits record) (part deeds))
      (idle : ∀ record : Step, record.kind = .branch ∨ record.kind = .loop → due record = false) :
      Trail.Covers due fits after.steps (part trail.total) := by
    rw [course.steps]
    exact (course.accounted.each own idle course.goes.nested).covers additive course.ends reported
  obtain ⟨loaded, called, part, whole⟩ := course.calls
  refine ⟨?_, ?_, ?_, ⟨loaded, trail.total.calls, called, part, ?_, ?_⟩, ?_,
    fun _ => slots_names, ?_⟩
  · simp [resultOf, course.output, course.transcript]
  · change Trail.Covers _ _ after.steps after.transcript
    rw [course.transcript]
    refine each Trail.additive_transcript (fun _ _ accounts => accounts.transcript) ?_
    rintro record (kind | kind) <;> simp [Step.speaks, kind]
  · rw [course.runs]
    refine each Trail.additive_runs (fun _ _ accounts => accounts.runs) ?_
    rintro record (kind | kind) <;> simp [Step.runsTool, kind]
  · rintro (success | chosen)
    · exact whole (.inl (same.mp (by simpa [RunResult.success, resultOf] using success)))
    · exact whole (.inr chosen)
  · refine each Trail.additive_calls (fun _ _ accounts => accounts.calls) ?_
    rintro record (kind | kind) <;> simp [Step.usesMemory, kind]
  · intro success record member
    obtain rfl := same.mp (by simpa [RunResult.success, resultOf] using success)
    exact course.ends record (course.steps ▸ member)
  · intro unchosen
    change after.handler = Option.none at unchosen
    have goes := course.goes
    rw [unchosen] at goes
    cases goes
    refine ⟨course.steps, course.transcript, course.runs, ?_⟩
    rw [called]
    simpa [Trail.total, Deeds.none] using part

end RunRequest

/-- Whatever the program and the host do, the records of a result account for everything that was
said, every run of a tool and every call of the memory. -/
theorem RunRequest.execute_accounted {σ : Type} (request : RunRequest) (host : Host σ) (world : σ)
    {result : RunResult} {journal : List Event}
    (concluded : (request.execute.run host world).1 = (.ok result, journal)) :
    result.Accounted request (request.execute.exchanges host world) := by
  have path := Dialogue.run_path host request.execute world
  rw [concluded] at path
  rcases execute_course path with ⟨failure, silent, rfl⟩ | ⟨ended, after, trail, course, ending⟩
  · rw [silent]
    have nothing {α : Type} {due : Step → Bool} {fits : Step → α → Prop} :
      Trail.Covers due fits [] [] :=
      ⟨[], .nil, .inl rfl⟩
    refine ⟨rfl, nothing, nothing, ⟨[], [], rfl, List.nil_prefix, ?_, nothing⟩, ?_,
      fun _ => slots_names, ?_⟩
    · rintro (impossible | impossible)
      · cases impossible
      · exact absurd rfl impossible
    · intro succeeded
      cases succeeded
    · exact fun _ => ⟨rfl, rfl, rfl, List.nil_prefix⟩
  · rcases ending with ⟨rfl, rfl⟩ | ⟨fault, rfl, rfl⟩
    · exact course.accounts (by simp) (by simp)
    · exact course.accounts (by simp) (by simp)

/-- A run that declares a variable, sets it, calls a tool and writes to the memory. -/
def RunRequest.busy : RunRequest :=
  { alone
    "bot b memory session var n end on input set n to 1 call t with {} say n remember k as n end end" with
    bindings := [("k", .text "key")]
    offers := [.ofRecord "t" "" ""]
    connected := true }

/-- A host with the tool that the run calls. -/
def RunRequest.busyWorld : World :=
  .bare [⟨.ofRecord "t" "" "", false, true, []⟩]

theorem RunRequest.busy_accounted :
    ∃ result journal, (busy.execute.run World.host busyWorld).1 = (.ok result, journal) ∧
      result.success = true ∧
      (result.transcript.length = 2 ∧
        (toolRuns (busy.execute.exchanges World.host busyWorld)).length = 1 ∧
        (memoryCalls (busy.execute.exchanges World.host busyWorld)).map MemoryCall.method =
          ["get", "set", "set"]) ∧
      result.Accounted busy (busy.execute.exchanges World.host busyWorld) := by
  have worked : ((busy.execute.run World.host busyWorld).1.1.toOption.any fun result =>
      result.success && result.transcript.length = 2) = true := by decide +kernel
  have done : (toolRuns (busy.execute.exchanges World.host busyWorld)).length = 1 ∧
      (memoryCalls (busy.execute.exchanges World.host busyWorld)).map MemoryCall.method =
        ["get", "set", "set"] := by
    decide +kernel
  obtain ⟨result, journal, concluded, worked⟩ := concluded_of_any worked
  obtain ⟨success, entries⟩ := Bool.and_eq_true_iff.mp worked
  exact ⟨result, journal, concluded, success, ⟨of_decide_eq_true entries, done⟩,
    execute_accounted busy World.host busyWorld concluded⟩

end BotScript
