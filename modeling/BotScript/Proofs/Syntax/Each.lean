import BotScript.Check.Mentions
import BotScript.Proofs.Syntax.Readable

/-! What holds of every expression of a program, and of every variable that it declares or binds.
The grammar derives a program from its tokens, so what holds of all expressions that some of the
tokens start with holds of every expression in its guards and statements, and what holds of the
names among the tokens holds of its variables. -/

namespace BotScript

/-- Something holds of all expressions in a statement and something of the variables that it binds,
also in the statements inside. -/
inductive Stmt.Each (named : String → Prop) (holds : Expr → Prop) : Stmt → Prop
  | say {expr : Expr} {p : Position} (said : holds expr) : Each named holds (.say expr p)
  | ask {prompt : Expr} {options : List (String × Expr)} {p : Position} (asked : holds prompt)
      (chosen : ∀ option ∈ options, holds option.2) (binds : named Stmt.resultName) :
      Each named holds (.ask prompt options p)
  | set {name : String} {expr : Expr} {p : Position} (binds : named name) (given : holds expr) :
      Each named holds (.set name expr p)
  | call {tool : String} {args : List (String × Expr)} {bindAs : Option String} {p : Position}
      (given : ∀ arg ∈ args, holds arg.2) (binds : ∀ name, bindAs = some name → named name) :
      Each named holds (.call tool args bindAs p)
  | branch {condition : Expr} {thenBody : List Stmt} {elseBody : Option (List Stmt)} {p : Position}
      (tested : holds condition) (inThen : ∀ stmt ∈ thenBody, Each named holds stmt)
      (inElse : ∀ body, elseBody = some body → ∀ stmt ∈ body, Each named holds stmt) :
      Each named holds (.branch condition thenBody elseBody p)
  | loop {item : String} {collection : Expr} {body : List Stmt} {p : Position} (binds : named item)
      (collected : holds collection) (inside : ∀ stmt ∈ body, Each named holds stmt) :
      Each named holds (.loop item collection body p)
  | remember {key value : Expr} {mode : RememberMode} {p : Position} (keyed : holds key)
      (given : holds value) :
      Each named holds (.remember key value mode p)
  | recollect {key : Expr} {bindAs : String} {p : Position} (keyed : holds key)
      (binds : named bindAs) :
      Each named holds (.recollect key bindAs p)

namespace Stmt

variable {named : String → Prop} {holds : Expr → Prop}

theorem mem_flattenAll {body : List Stmt} {inner : Stmt} :
    inner ∈ flattenAll body ↔ ∃ stmt ∈ body, inner ∈ stmt.flatten := by
  induction body with
  | nil => simp [flattenAll]
  | cons first rest ih => simp [flattenAll, ih]

/-- What holds of all expressions and variables in a statement holds of those in the statements in
it. -/
theorem Each.inner {stmt : Stmt} (each : stmt.Each named holds) :
    ∀ inner ∈ stmt.flatten, inner.Each named holds := by
  have all {body : List Stmt} (inside : ∀ stmt ∈ body, ∀ inner ∈ stmt.flatten,
      inner.Each named holds) :
      ∀ inner ∈ flattenAll body, inner.Each named holds := by
    intro inner member
    obtain ⟨stmt, among, within⟩ := mem_flattenAll.mp member
    exact inside stmt among inner within
  induction each with
  | say said => exact List.forall_mem_singleton.mpr (.say said)
  | ask asked chosen binds => exact List.forall_mem_singleton.mpr (.ask asked chosen binds)
  | set binds given => exact List.forall_mem_singleton.mpr (.set binds given)
  | call given binds => exact List.forall_mem_singleton.mpr (.call given binds)
  | @branch _ _ elseBody _ tested inThen inElse ihThen ihElse =>
    rw [flatten]
    refine List.forall_mem_cons.mpr ⟨.branch tested inThen inElse,
      List.forall_mem_append.mpr ⟨all ihThen, ?_⟩⟩
    cases elseBody with
    | none => exact List.forall_mem_nil _
    | some body => exact all (ihElse body rfl)
  | loop binds collected inside ih =>
    rw [flatten]
    exact List.forall_mem_cons.mpr ⟨.loop binds collected inside, all ih⟩
  | remember keyed given => exact List.forall_mem_singleton.mpr (.remember keyed given)
  | recollect keyed binds => exact List.forall_mem_singleton.mpr (.recollect keyed binds)

/-- The expressions that a statement itself evaluates are among those in it. -/
theorem Each.expressions {stmt : Stmt} (each : stmt.Each named holds) :
    ∀ e ∈ stmt.expressions, holds e := by
  cases each with
  | say said => exact List.forall_mem_singleton.mpr said
  | ask asked chosen _ => exact List.forall_mem_cons.mpr ⟨asked, List.forall_mem_map.mpr chosen⟩
  | set _ given => exact List.forall_mem_singleton.mpr given
  | call given _ => exact List.forall_mem_map.mpr given
  | branch tested _ _ => exact List.forall_mem_singleton.mpr tested
  | loop _ collected _ => exact List.forall_mem_singleton.mpr collected
  | remember keyed given =>
    exact List.forall_mem_cons.mpr ⟨keyed, List.forall_mem_singleton.mpr given⟩
  | recollect keyed _ => exact List.forall_mem_singleton.mpr keyed

/-- The variable that a statement itself binds is among those in it. -/
theorem Each.bound {stmt : Stmt} (each : stmt.Each named holds) {name : String}
    (binds : stmt.bound? = some name) :
    named name := by
  cases each with
  | say | branch | remember => cases binds
  | ask _ _ target | set target _ | loop target _ _ | recollect _ target =>
    obtain rfl := Option.some.inj binds
    exact target
  | call _ target => exact target name binds

end Stmt

/-- Something holds of all expressions in a handler and something of the variables that it binds. -/
structure Handler.Each (named : String → Prop) (holds : Expr → Prop) (handler : Handler) :
    Prop where
  guard : ∀ guard, handler.guard = some guard → holds guard
  body : ∀ stmt ∈ handler.body, stmt.Each named holds

namespace Handler.Each

variable {named : String → Prop} {holds : Expr → Prop} {handler : Handler}

theorem statements (each : handler.Each named holds) :
    ∀ stmt ∈ handler.statements, stmt.Each named holds := by
  intro inner member
  obtain ⟨stmt, among, within⟩ := Stmt.mem_flattenAll.mp member
  exact (each.body stmt among).inner inner within

/-- What holds of all expressions in a handler holds of its guard and of those of its statements. -/
theorem expressions (each : handler.Each named holds) : ∀ e ∈ handler.expressions, holds e := by
  intro e member
  rcases List.mem_append.mp member with guard | inside
  · exact each.guard e (Option.mem_toList.mp guard)
  · obtain ⟨stmt, among, within⟩ := List.mem_flatMap.mp inside
    exact (each.statements stmt among).expressions e within

end Handler.Each

/-- Something holds of all expressions in a bot and something of the variables that it declares or
binds. -/
structure Bot.Each (named : String → Prop) (holds : Expr → Prop) (bot : Bot) : Prop where
  declared : ∀ name ∈ bot.memoryNames, named name
  handlers : ∀ handler ∈ bot.handlers, handler.Each named holds

/-- Something holds of all expressions in a program and something of the variables that it declares
or binds. -/
def Program.Each (named : String → Prop) (holds : Expr → Prop) (program : Program) : Prop :=
  ∀ bot ∈ program.bots, bot.Each named holds

namespace Grammar

open Reading (isReference referenceOf)

/-- Something holds of all expressions that some tokens start with and of the references among the
tokens, and something of the plain names. -/
structure Throughout (named : String → Prop) (holds : Expr → Prop) (tokens : List Token) :
    Prop where
  terms : ∀ ts e rest, ts <:+ tokens → Term ts e rest → holds e
  references : ∀ t ∈ tokens, isReference t → holds (referenceOf t)
  bindings : ∀ t ∈ tokens, isBinding t → named t.text
  result : named Stmt.resultName

section

variable {named : String → Prop} {holds : Expr → Prop} {free : Token → Bool} {t : Token}
  {ts rest : List Token} {e : Expr}

theorem Throughout.suffix (throughout : Throughout named holds ts) (suffix : rest <:+ ts) :
    Throughout named holds rest :=
  ⟨fun part e behind inner => throughout.terms part e behind (inner.trans suffix),
    fun t member => throughout.references t (suffix.subset member),
    fun t member => throughout.bindings t (suffix.subset member), throughout.result⟩

/-- The first token, where it is the plain name of a variable. -/
theorem Throughout.binding (throughout : Throughout named holds (t :: ts)) (plain : isBinding t) :
    named t.text :=
  throughout.bindings t List.mem_cons_self plain

theorem Throughout.tail (throughout : Throughout named holds (t :: ts)) :
    Throughout named holds ts :=
  throughout.suffix (List.suffix_cons t ts)

theorem Throughout.term (throughout : Throughout named holds ts) (derived : Term ts e rest) :
    holds e ∧ Throughout named holds rest :=
  ⟨throughout.terms ts e rest List.suffix_rfl derived, throughout.suffix derived.suffix⟩

theorem Fields.each {ts rest : List Token} {fields : List (String × Expr)}
    (derived : Fields Reading.template ts fields rest) (throughout : Throughout named holds ts) :
    (∀ field ∈ fields, holds field.2) ∧ Throughout named holds rest := by
  match derived with
  | .close _ => exact ⟨List.forall_mem_nil _, throughout.tail⟩
  | .last _ _ only _ =>
    obtain ⟨value, behind⟩ := throughout.tail.tail.term only
    exact ⟨List.forall_mem_singleton.mpr value, behind.tail⟩
  | .more _ _ first _ others =>
    obtain ⟨value, behind⟩ := throughout.tail.tail.term first
    obtain ⟨more, last⟩ := others.each behind.tail
    exact ⟨List.forall_mem_cons.mpr ⟨value, more⟩, last⟩

theorem Braces.each {fields : List (String × Expr)} (derived : Braces ts fields rest)
    (throughout : Throughout named holds ts) :
    (∀ field ∈ fields, holds field.2) ∧ Throughout named holds rest := by
  cases derived with
  | object _ all _ => exact all.each throughout.tail

theorem Choices.each {choices : List (String × Expr)} (derived : Choices ts choices rest)
    (throughout : Throughout named holds ts) :
    (∀ choice ∈ choices, holds choice.2) ∧ Throughout named holds rest := by
  induction derived with
  | last _ _ only =>
    obtain ⟨value, behind⟩ := throughout.tail.tail.term only
    exact ⟨List.forall_mem_singleton.mpr value, behind⟩
  | more _ _ first _ _ ih =>
    obtain ⟨value, behind⟩ := throughout.tail.tail.term first
    obtain ⟨more, last⟩ := ih behind.tail
    exact ⟨List.forall_mem_cons.mpr ⟨value, more⟩, last⟩

theorem Options.each {options : List (String × Expr)} (derived : Options ts options rest)
    (throughout : Throughout named holds ts) :
    (∀ option ∈ options, holds option.2) ∧ Throughout named holds rest := by
  cases derived with
  | absent => exact ⟨List.forall_mem_nil _, throughout⟩
  | braces _ all => exact all.each throughout.tail
  | bare _ all =>
    obtain ⟨each, behind⟩ := all.each throughout.tail
    exact ⟨fun option member => each option (Entries.mem_ofList member), behind⟩

theorem Naming.each {name : Option String} (derived : Naming ts name rest)
    (throughout : Throughout named holds ts) :
    (∀ target, name = some target → named target) ∧ Throughout named holds rest := by
  cases derived with
  | absent => exact ⟨nofun, throughout⟩
  | named _ plain =>
    refine ⟨fun target same => ?_, throughout.tail.tail⟩
    obtain rfl := Option.some.inj same
    exact throughout.tail.binding plain

/-- Without a name of its own a value goes to the variable for results. -/
theorem Throughout.target {name : Option String} (throughout : Throughout named holds ts)
    (given : ∀ target, name = some target → named target) : named (name.getD Stmt.resultName) := by
  cases name with
  | none => exact throughout.result
  | some target => exact given target rfl

theorem Link.throughout (derived : Link free ts rest) (throughout : Throughout named holds ts) :
    Throughout named holds rest := by
  cases derived with
  | word => exact throughout.tail
  | absent => exact throughout

mutual

theorem Statement.each {ts rest : List Token} {stmt : Stmt} (derived : Statement free ts stmt rest)
    (throughout : Throughout named holds ts) :
    stmt.Each named holds ∧ Throughout named holds rest := by
  match derived with
  | .say _ said =>
    obtain ⟨value, behind⟩ := throughout.tail.term said
    exact ⟨.say value, behind⟩
  | .ask _ _ asked chosen =>
    obtain ⟨prompt, behind⟩ := throughout.tail.tail.term asked
    obtain ⟨options, last⟩ := chosen.each behind
    exact ⟨.ask prompt options throughout.result, last⟩
  | .set _ plain link given =>
    obtain ⟨value, behind⟩ := (link.throughout throughout.tail.tail).term given
    exact ⟨.set (throughout.tail.binding plain) value, behind⟩
  | .call _ _ _ given bound =>
    obtain ⟨args, behind⟩ := given.each throughout.tail.tail.tail
    obtain ⟨target, last⟩ := bound.each behind
    exact ⟨.call args target, last⟩
  | .branch _ tested body _ =>
    obtain ⟨condition, inside⟩ := throughout.tail.term tested
    obtain ⟨stmts, behind⟩ := body.each inside
    refine ⟨.branch condition stmts ?_, behind.tail⟩
    intro taken impossible
    cases impossible
  | .branchElse _ tested body _ other _ =>
    obtain ⟨condition, inside⟩ := throughout.tail.term tested
    obtain ⟨stmts, between⟩ := body.each inside
    obtain ⟨others, behind⟩ := other.each between.tail
    refine ⟨.branch condition stmts fun taken same => ?_, behind.tail⟩
    obtain rfl := Option.some.inj same
    exact others
  | .loop _ plain _ names inner _ =>
    have collection := throughout.tail.tail.tail.references _ List.mem_cons_self names
    obtain ⟨stmts, behind⟩ := inner.each throughout.tail.tail.tail.tail
    exact ⟨.loop (throughout.tail.binding plain) collection stmts, behind.tail⟩
  | .remember _ keyed _ given =>
    obtain ⟨key, inside⟩ := throughout.tail.term keyed
    obtain ⟨value, behind⟩ := inside.tail.term given
    exact ⟨.remember key value, behind⟩
  | .rememberMore _ keyed _ given =>
    obtain ⟨key, inside⟩ := throughout.tail.term keyed
    obtain ⟨value, behind⟩ := inside.tail.term given
    exact ⟨.remember key value, behind⟩
  | .recollect _ keyed bound =>
    obtain ⟨key, behind⟩ := throughout.tail.term keyed
    obtain ⟨target, last⟩ := bound.each behind
    exact ⟨.recollect key (throughout.target target), last⟩

theorem Statements.each {ts rest : List Token} {stmts : List Stmt}
    (derived : Statements free ts stmts rest) (throughout : Throughout named holds ts) :
    (∀ stmt ∈ stmts, stmt.Each named holds) ∧ Throughout named holds rest := by
  match derived with
  | .none _ => exact ⟨List.forall_mem_nil _, throughout⟩
  | .more first others =>
    obtain ⟨stmt, behind⟩ := first.each throughout
    obtain ⟨more, last⟩ := others.each behind
    exact ⟨List.forall_mem_cons.mpr ⟨stmt, more⟩, last⟩

end

/-! ## Declarations -/

/-- What holds of the names among some tokens holds of the variables that they declare. -/
theorem Variables.each {vars : List MemoryVariable} (derived : Variables ts vars rest)
    (throughout : Throughout named holds ts) :
    (∀ var ∈ vars, named var.name) ∧ Throughout named holds rest := by
  induction derived with
  | close => exact ⟨List.forall_mem_nil _, throughout.tail⟩
  | @more _ _ _ _ behind _ _ _ _ plain colon type _ ih =>
    have typed := throughout.tail.tail
    have further : Throughout named holds behind := by
      cases colon with
      | absent =>
        cases type with
        | absent => exact typed
        | named => exact typed.tail
      | present =>
        cases type with
        | absent => exact typed.tail
        | named => exact typed.tail.tail
    obtain ⟨others, last⟩ := ih further
    exact ⟨List.forall_mem_cons.mpr ⟨throughout.tail.binding plain, others⟩, last⟩

theorem ToolNames.throughout {names : List String} (derived : ToolNames ts names rest)
    (throughout : Throughout named holds ts) : Throughout named holds rest := by
  induction derived with
  | last => exact throughout.tail
  | more _ _ _ ih => exact ih throughout.tail.tail

theorem EarlyDeclaration.each {declared : Early} (derived : EarlyDeclaration ts declared rest)
    (throughout : Throughout named holds ts) :
    (∀ block, declared.memory? = some block → ∀ var ∈ block.declarations, named var.name) ∧
      Throughout named holds rest := by
  cases derived with
  | description => exact ⟨nofun, throughout.tail.tail⟩
  | memory _ _ _ all _ =>
    obtain ⟨vars, behind⟩ := all.each throughout.tail.tail
    refine ⟨fun block same => ?_, behind⟩
    obtain rfl := Option.some.inj same
    exact vars
  | tools _ all => exact ⟨nofun, all.throughout throughout.tail⟩
  | toolsInside _ _ all _ => exact ⟨nofun, (all.throughout throughout.tail.tail).tail⟩

theorem Preamble.each {early : List Early} (derived : Preamble ts early rest)
    (throughout : Throughout named holds ts) :
    (∀ declared ∈ early, ∀ block, declared.memory? = some block →
      ∀ var ∈ block.declarations, named var.name) ∧
      Throughout named holds rest := by
  induction derived with
  | none => exact ⟨List.forall_mem_nil _, throughout⟩
  | more first _ ih =>
    obtain ⟨declared, behind⟩ := first.each throughout
    obtain ⟨others, last⟩ := ih behind
    exact ⟨List.forall_mem_cons.mpr ⟨declared, others⟩, last⟩

theorem Handling.each {handler : Handler} (derived : Handling free ts handler rest)
    (throughout : Throughout named holds ts) :
    handler.Each named holds ∧ Throughout named holds rest := by
  cases derived with
  | on _ _ guard statements _ =>
    cases guard with
    | absent =>
      obtain ⟨stmts, behind⟩ := statements.each throughout.tail.tail
      refine ⟨⟨?_, stmts⟩, behind.tail⟩
      intro taken impossible
      cases impossible
    | present _ condition =>
      obtain ⟨guard, inside⟩ := throughout.tail.tail.tail.term condition
      obtain ⟨stmts, behind⟩ := statements.each inside
      refine ⟨⟨fun taken same => ?_, stmts⟩, behind.tail⟩
      obtain rfl := Option.some.inj same
      exact guard

theorem Handlers.each {handlers : List Handler} (derived : Handlers free ts handlers rest)
    (throughout : Throughout named holds ts) :
    (∀ handler ∈ handlers, handler.Each named holds) ∧ Throughout named holds rest := by
  induction derived with
  | none => exact ⟨List.forall_mem_nil _, throughout⟩
  | more first _ ih =>
    obtain ⟨handler, behind⟩ := first.each throughout
    obtain ⟨more, last⟩ := ih behind
    exact ⟨List.forall_mem_cons.mpr ⟨handler, more⟩, last⟩

theorem Bots.each {bots : List Bot} (derived : Bots free ts bots)
    (throughout : Throughout named holds ts) :
    ∀ bot ∈ bots, bot.Each named holds := by
  induction derived with
  | none => exact List.forall_mem_nil _
  | more _ _ declared _ answered _ _ _ ih =>
    obtain ⟨blocks, between⟩ := declared.each throughout.tail.tail
    obtain ⟨handlers, behind⟩ := answered.each between
    refine List.forall_mem_cons.mpr ⟨⟨fun name member => ?_, handlers⟩, ih behind.tail⟩
    obtain ⟨block, listed, inside⟩ := List.mem_flatMap.mp member
    obtain ⟨var, among, rfl⟩ := List.mem_map.mp inside
    obtain ⟨early, first, same⟩ := List.mem_filterMap.mp listed
    exact blocks early first block same var among

/-- What holds of all expressions that the tokens of a program start with holds of all its
expressions, and what holds of the names among them of all its variables. -/
theorem IsProgram.each {program : Program} (derived : IsProgram free ts program)
    (throughout : Throughout named holds ts) : program.Each named holds :=
  derived.bots.each throughout

end

end Grammar

namespace Reading

open Grammar

/-- The expressions of a program are spelled with the names and fields of its source, and so are its
variables. -/
theorem Spelling.program {named field : String → Prop} {sound : List Char → Prop}
    (spelling : Spelling named field sound) {source : String} {whole : Program}
    (fine : sound source.toList) (parsed : parseProgram source = .ok whole) :
    whole.Each named (Expr.Spelled named field) := by
  unfold parseProgram tokenize at parsed
  split at parsed
  · cases parsed
  · rename_i stream scanned
    have plain := spelling.plain fine scanned
    have decided := program_decides stream.tokens
    cases read : Reading.program stream.tokens with
    | error failure =>
      rw [read] at parsed
      cases parsed
    | ok program =>
      rw [read] at parsed decided
      obtain rfl := Except.ok.inj parsed
      obtain ⟨-, ⟨-, derived⟩, -⟩ := decided
      refine derived.each ⟨fun ts e rest suffix term => ?_, fun t member => (plain t member).name,
        spelling.binding _ _ _ fine scanned, spelling.result⟩
      exact term.spelled fun t member => plain t (suffix.subset member)

end Reading

end BotScript
