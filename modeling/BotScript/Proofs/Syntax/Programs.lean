import BotScript.Proofs.Syntax.Statements

/-! Reading programs decides their grammar. -/

namespace BotScript

section Distinct

variable {α : Type} {f : α → String} {before others : List α} {a : α}

theorem nodup_append_single (distinct : (before.map f).Nodup) (new : ¬ before.any (f · = f a)) :
    ((before ++ [a]).map f).Nodup := by
  rw [List.map_append]
  refine List.nodup_append.mpr ⟨distinct, by simp, ?_⟩
  rintro _ known _ single rfl
  obtain ⟨other, member, same⟩ := List.mem_map.mp known
  refine new (List.any_eq_true.mpr ⟨other, member, ?_⟩)
  simpa [same] using single

theorem not_nodup_of_any (taken : before.any (f · = f a)) :
    ¬ ((before ++ a :: others).map f).Nodup := by
  intro unique
  obtain ⟨known, member, same⟩ := List.any_eq_true.mp taken
  rw [List.map_append, List.map_cons] at unique
  exact (List.nodup_append.mp unique).2.2 _ (List.mem_map_of_mem member) _ List.mem_cons_self
    (by simpa using same)

end Distinct

namespace Grammar

variable {free : Token → Bool} {word t : Token} {ts rest : List Token} {declared : Early}

/-- The next token is a keyword. -/
def Worded (rest : List Token) : Prop :=
  ∀ t ∈ rest.head?, t.kind = .keyword

theorem Worded.of_keyword {text : String} (word : t.isKeyword text) : Worded (t :: rest) := by
  intro first same
  obtain rfl := Option.some.inj same
  exact kind_of_keyword word

theorem Variables.worded {vars : List MemoryVariable} (derived : Variables ts vars rest) :
    Worded ts := by
  cases derived with
  | close closes => exact .of_keyword closes
  | more opens => exact .of_keyword opens

/-- Tokens start with a memory variable behind the word `var`. -/
def VariableAt (p : Position) (ts : List Token) (v : MemoryVariable) (rest : List Token) : Prop :=
  ∃ name middle, (∃ t, ts = t :: middle ∧ isBinding t ∧ name = t.text) ∧
    ∃ type, (∃ typed, Colon middle typed ∧ TypeName typed type rest) ∧ v = ⟨name, type, p⟩

theorem Variables.cons_iff {word : Token} {vars : List MemoryVariable} :
    Variables (word :: ts) vars rest ↔ (word.isKeyword "end" ∧ vars = [] ∧ rest = ts) ∨
      (word.isKeyword "var" ∧
      ∃ v final, VariableAt word.position ts v final ∧ ∃ others, Variables final others rest ∧
        vars = v :: others) := by
  constructor
  · intro derived
    cases derived with
    | close closes => exact .inl ⟨closes, rfl, rfl⟩
    | more opens plain colon type further =>
      exact .inr ⟨opens, _, _, ⟨_, _, ⟨_, rfl, plain, rfl⟩, _, ⟨_, colon, type⟩, rfl⟩,
        _, further, rfl⟩
  · rintro (⟨closes, rfl, rfl⟩ | ⟨opens, _, final,
      ⟨_, middle, ⟨t, rfl, plain, rfl⟩, type, ⟨typed, colon, typing⟩, rfl⟩, others, further, rfl⟩)
    · exact .close closes
    · exact .more opens plain colon typing further

/-! ## What an early declaration consists of -/

theorem EarlyDeclaration.description_iff (opens : word.isKeyword "description") :
    EarlyDeclaration (word :: ts) declared rest ↔ ∃ t, (ts = t :: rest ∧ t.isString) ∧
      declared = .description t.text := by
  constructor
  · intro derived
    cases derived with
    | description _ quoted => exact ⟨_, ⟨rfl, quoted⟩, rfl⟩
    | _ => simp_all [Token.isKeyword, Token.is]
  · rintro ⟨t, ⟨rfl, quoted⟩, rfl⟩
    exact .description opens quoted

/-- The scope that a token names. -/
def scopeOf? (t : Token) : Option Scope :=
  if t.kind = .keyword then Scope.ofName? t.text else none

/-- Tokens start with a memory block behind the word `memory`. -/
def MemoryAt (p : Position) (ts : List Token) (block : MemoryBlock) (rest : List Token) : Prop :=
  ∃ owner behind scope, ts = owner :: behind ∧ scopeOf? owner = some scope ∧ ∃ vars,
    Variables behind vars rest ∧
    (vars.map MemoryVariable.name).Nodup ∧ block = ⟨scope, vars, p⟩

theorem EarlyDeclaration.memory_iff (opens : word.isKeyword "memory") :
    EarlyDeclaration (word :: ts) declared rest ↔ ∃ block, MemoryAt word.position ts block rest ∧
      declared = .memory block := by
  constructor
  · intro derived
    cases derived with
    | memory _ keyword known all distinct =>
      exact ⟨_, ⟨_, _, _, rfl, by simp [scopeOf?, keyword, known], _, all, distinct, rfl⟩, rfl⟩
    | _ => simp_all [Token.isKeyword, Token.is]
  · rintro ⟨_, ⟨owner, behind, scope, rfl, known, vars, all, distinct, rfl⟩, rfl⟩
    obtain ⟨keyword, named⟩ : owner.kind = .keyword ∧ Scope.ofName? owner.text = some scope := by
      simpa [scopeOf?] using known
    exact .memory opens keyword named all distinct

/-- Tokens start with tool names, perhaps in brackets. -/
def ToolsAt (ts : List Token) (names : List String) (rest : List Token) : Prop :=
  ToolNames ts names rest ∨ ∃ opening behind kind,
    ts = opening :: behind ∧ Reading.closing? opening = some kind ∧
    ∃ closing, ToolNames behind names (closing :: rest) ∧ closing.kind = kind

theorem EarlyDeclaration.tools_iff (opens : word.isKeyword "tools") :
    EarlyDeclaration (word :: ts) declared rest ↔
      ∃ names, ToolsAt ts names rest ∧ declared = .tools names := by
  constructor
  · intro derived
    cases derived with
    | tools _ all => exact ⟨_, .inl all, rfl⟩
    | toolsInside _ bracket all closes =>
      exact ⟨_, .inr ⟨_, _, _, rfl, bracket, _, all, closes⟩, rfl⟩
    | _ => simp_all [Token.isKeyword, Token.is]
  · rintro ⟨names, all | ⟨opening, behind, kind, rfl, bracket, closing, all, closes⟩, rfl⟩
    · exact .tools opens all
    · exact .toolsInside opens bracket all closes

theorem ToolNames.iff {names : List String} :
    ToolNames ts names rest ↔ ∃ t middle, (ts = t :: middle ∧ t.kind = .name) ∧
      ((names = [t.text] ∧ rest = middle) ∨ ∃ comma behind, middle = comma :: behind ∧
        comma.kind = .comma ∧
        ∃ others, ToolNames behind others rest ∧ names = t.text :: others) := by
  constructor
  · intro derived
    cases derived with
    | last name => exact ⟨_, _, ⟨rfl, name⟩, .inl ⟨rfl, rfl⟩⟩
    | more name separates further =>
      exact ⟨_, _, ⟨rfl, name⟩, .inr ⟨_, _, rfl, separates, _, further, rfl⟩⟩
  · rintro ⟨t, middle, ⟨rfl, name⟩,
      ⟨rfl, rfl⟩ | ⟨comma, behind, rfl, separates, others, further, rfl⟩⟩
    · exact .last name
    · exact .more name separates further

/-- Tool names do not start with a bracket. -/
theorem ToolNames.not_bracket {names : List String} {opening : Token} {kind : TokenKind}
    (bracket : Reading.closing? opening = some kind) : ¬ ToolNames (opening :: ts) names rest := by
  intro derived
  obtain ⟨_, _, ⟨same, name⟩, -⟩ := ToolNames.iff.mp derived
  obtain ⟨rfl, -⟩ := List.cons.inj same
  simp [Reading.closing?, name] at bracket

/-- The next token is no comma. -/
def Uncommaed (rest : List Token) : Prop :=
  ∀ t ∈ rest.head?, t.kind ≠ .comma

theorem Worded.uncommaed (worded : Worded rest) : Uncommaed rest :=
  fun t first comma => by simp [worded t first] at comma

theorem Uncommaed.of_closing {opening closing : Token}
    (bracket : Reading.closing? opening = some closing.kind) :
    Uncommaed (closing :: rest) := by
  intro t first comma
  obtain rfl := Option.some.inj first
  rw [comma] at bracket
  unfold Reading.closing? at bracket
  split at bracket
  · cases bracket
  · split at bracket <;> cases bracket

/-! ## What a bot consists of -/

theorem Handling.iff (opens : word.isKeyword "on") {handler : Handler} :
    Handling free (word :: ts) handler rest ↔
      ∃ event middle, (ts = event :: middle ∧ Reading.isEvent event) ∧
      ∃ condition inside, Guard middle condition inside ∧
        ∃ body, Block free (.handler event.text) inside body rest ∧
        handler = ⟨event.text, condition, body.1, word.position⟩ := by
  constructor
  · intro derived
    cases derived with
    | on _ answers guard statements closes =>
      exact ⟨_, _, ⟨rfl, answers⟩, _, _, guard, (_, _),
        ⟨statements, by simp [BlockOwner.isClosedBy, closes]⟩, rfl⟩
  · rintro ⟨event, middle, ⟨rfl, answers⟩, condition, inside, guard, body,
      ⟨statements, closes⟩, rfl⟩
    exact .on opens answers guard statements (by simpa [BlockOwner.isClosedBy] using closes)

theorem Handling.opens {handler : Handler} (derived : Handling free ts handler rest) :
    ∃ t more, ts = t :: more ∧ t.isKeyword "on" := by
  cases derived with
  | on opens => exact ⟨_, _, rfl, opens⟩

theorem EarlyDeclaration.opens (derived : EarlyDeclaration ts declared rest) :
    ∃ t more, ts = t :: more ∧ ((t.isKeyword "description" ∧ declared.description?.isSome) ∨
      t.isKeyword "memory" ∨
      t.isKeyword "tools") := by
  cases derived with
  | description opens => exact ⟨_, _, rfl, .inl ⟨opens, rfl⟩⟩
  | memory opens => exact ⟨_, _, rfl, .inr (.inl opens)⟩
  | tools opens | toolsInside opens => exact ⟨_, _, rfl, .inr (.inr opens)⟩

/-- A bot with one more declaration in front of its handlers. -/
def declare (bot : Bot) : Early → Bot
  | .description text => { bot with description := some text }
  | .memory block => { bot with memory := bot.memory ++ [block] }
  | .tools names => { bot with tools := bot.tools ++ names }

/-- A bot with one more handler. -/
def answer (bot : Bot) (handler : Handler) : Bot :=
  { bot with handlers := bot.handlers ++ [handler] }

/-- Tokens start with one more declaration of a bot. -/
def OneMore (free : Token → Bool) (bot : Bot) (ts : List Token) (next : Bot) (rest : List Token) :
    Prop :=
  (∃ handler, Handling free ts handler rest ∧ next = answer bot handler) ∨
    (bot.handlers = [] ∧ ∃ declared, EarlyDeclaration ts declared rest ∧
      (declared.description?.isSome → bot.description = none) ∧ next = declare bot declared)

/-- Tokens go on with the declarations of a bot, up to its end. -/
inductive Declared (free : Token → Bool) : Bot → List Token → Bot → List Token → Prop
  | close {stop : Token} {rest : List Token} {bot : Bot} (closes : stop.isKeyword "end")
      (nonempty : bot.handlers ≠ []) :
      Declared free bot (stop :: rest) bot rest
  | more {ts behind rest : List Token} {bot next whole : Bot}
      (first : OneMore free bot ts next behind) (others : Declared free next behind whole rest) :
      Declared free bot ts whole rest

/-- Nothing is wrong with the word in front of a declaration. -/
theorem declarationProblem?_eq_none_iff {bot : Bot} :
    Reading.declarationProblem? bot t = none ↔
      t.isKeyword "on" ∨ (bot.handlers = [] ∧
        ((t.isKeyword "description" ∧ bot.description = none) ∨ t.isKeyword "memory" ∨
        t.isKeyword "tools")) := by
  constructor
  · intro fine
    unfold Reading.declarationProblem? at fine
    split at fine
    · cases fine
    split at fine
    · exact .inl (by assumption)
    split at fine
    · cases fine
    rename_i soon
    split at fine
    · cases fine
    rename_i once
    split at fine
    · rename_i early
      have first : bot.handlers = [] := by simpa [early] using soon
      refine .inr ⟨first, ?_⟩
      rcases Bool.or_eq_true_iff.mp early with two | tools
      · rcases Bool.or_eq_true_iff.mp two with description | memory
        · exact .inl ⟨description, by simpa [description] using once⟩
        · exact .inr (.inl memory)
      · exact .inr (.inr tools)
    · cases fine
  · rintro (opens | ⟨first, ⟨opens, once⟩ | opens | opens⟩)
    · simp [Reading.declarationProblem?, kind_of_keyword opens, opens]
    · simp [Reading.declarationProblem?, Reading.isEarly, kind_of_keyword opens, opens, first, once]
    · simp [Reading.declarationProblem?, Reading.isEarly, kind_of_keyword opens, opens, first,
        not_keyword_of_keyword opens]
    · simp [Reading.declarationProblem?, Reading.isEarly, kind_of_keyword opens, opens, first,
        not_keyword_of_keyword opens]

theorem OneMore.declares {bot next : Bot} (derived : OneMore free bot ts next rest) :
    ∃ t more, ts = t :: more ∧ Reading.declarationProblem? bot t = none ∧ t.kind = .keyword ∧
      t.isKeyword "end" = false := by
  obtain ⟨handler, handling, -⟩ | ⟨unhandled, declared, early, once, -⟩ := derived
  · obtain ⟨t, more, rfl, opens⟩ := handling.opens
    exact ⟨t, more, rfl, declarationProblem?_eq_none_iff.mpr (.inl opens), kind_of_keyword opens,
      not_keyword_of_keyword opens (by decide)⟩
  · obtain ⟨t, more, rfl, words⟩ := early.opens
    refine ⟨t, more, rfl, declarationProblem?_eq_none_iff.mpr (.inr ⟨unhandled, ?_⟩), ?_⟩
    · exact words.imp_left fun ⟨opens, given⟩ => ⟨opens, once given⟩
    · obtain ⟨opens, -⟩ | opens | opens := words <;>
        exact ⟨kind_of_keyword opens, not_keyword_of_keyword opens (by decide)⟩

theorem OneMore.on_iff (opens : word.isKeyword "on") {bot next : Bot} :
    OneMore free bot (word :: ts) next rest ↔ ∃ handler, Handling free (word :: ts) handler rest ∧
      next = answer bot handler := by
  constructor
  · rintro (handling | ⟨-, declared, early, -⟩)
    · exact handling
    · obtain ⟨_, _, same, words⟩ := early.opens
      obtain ⟨rfl, -⟩ := List.cons.inj same
      simp [not_keyword_of_keyword opens] at words
  · exact .inl

theorem OneMore.early_iff (other : ¬ word.isKeyword "on") {bot next : Bot}
    (soon : bot.handlers = []) :
    OneMore free bot (word :: ts) next rest ↔
      ∃ declared, EarlyDeclaration (word :: ts) declared rest ∧
      (declared.description?.isSome → bot.description = none) ∧ next = declare bot declared := by
  constructor
  · rintro (⟨_, handling, -⟩ | ⟨-, early⟩)
    · obtain ⟨_, _, same, opens⟩ := handling.opens
      obtain ⟨rfl, -⟩ := List.cons.inj same
      exact absurd opens other
    · exact early
  · exact fun early => .inr ⟨soon, early⟩

theorem Declared.worded {bot whole : Bot} (derived : Declared free bot ts whole rest) :
    Worded ts := by
  cases derived with
  | close closes => exact .of_keyword closes
  | more first =>
    obtain ⟨t, more, rfl, -, keyword, -⟩ := first.declares
    intro word same
    obtain rfl := Option.some.inj same
    exact keyword

theorem Declared.not_nil {bot whole : Bot} : ¬ Declared free bot [] whole rest := by
  intro derived
  cases derived with
  | more first others =>
    obtain ⟨_, _, impossible, -⟩ := first.declares
    cases impossible

/-- What comes next in a bot is its end, behind a handler, or one more declaration with nothing
wrong about its word. -/
theorem Declared.cons_iff {word : Token} {bot whole : Bot} :
    Declared free bot (word :: ts) whole rest ↔
      (word.isKeyword "end" ∧ bot.handlers ≠ [] ∧ whole = bot ∧ rest = ts) ∨
        (word.isKeyword "end" = false ∧ Reading.declarationProblem? bot word = none ∧
          ∃ next behind, OneMore free bot (word :: ts) next behind ∧
            Declared free next behind whole rest) := by
  constructor
  · intro derived
    cases derived with
    | close closes nonempty => exact .inl ⟨closes, nonempty, rfl, rfl⟩
    | more first others =>
      obtain ⟨_, _, same, fine, -, goesOn⟩ := first.declares
      obtain ⟨rfl, -⟩ := List.cons.inj same
      exact .inr ⟨goesOn, fine, _, _, first, others⟩
  · rintro (⟨closes, nonempty, rfl, rfl⟩ | ⟨-, -, next, behind, first, others⟩)
    · exact .close closes nonempty
    · exact .more first others

/-- All texts of descriptions, with the one that a bot has. -/
def descriptions (bot : Bot) (early : List Early) : List String :=
  bot.description.toList ++ early.filterMap Early.description?

theorem answer_all (bot : Bot) (handlers : List Handler) :
    handlers.foldl answer bot = { bot with handlers := bot.handlers ++ handlers } := by
  induction handlers generalizing bot with
  | nil => simp
  | cons handler handlers ih => simp [ih, answer]

theorem descriptions_declare {bot : Bot} {declared : Early} {early : List Early}
    (once : (descriptions bot (declared :: early)).length ≤ 1) :
    descriptions (declare bot declared) early = descriptions bot (declared :: early) := by
  cases declared with
  | description text =>
    cases known : bot.description with
    | none => simp [descriptions, declare, Early.description?, known]
    | some other => simp [descriptions, Early.description?, known] at once
  | memory block => simp [descriptions, declare, Early.description?, List.filterMap_cons]
  | tools names => simp [descriptions, declare, Early.description?, List.filterMap_cons]

theorem declare_all {bot : Bot} {early : List Early} (once : (descriptions bot early).length ≤ 1) :
    early.foldl declare bot = { bot with
      description := (descriptions bot early).head?
      memory := bot.memory ++ early.filterMap Early.memory?
      tools := bot.tools ++ (early.filterMap Early.tools?).flatten } := by
  induction early generalizing bot with
  | nil =>
    obtain ⟨name, kind, description, memory, tools, handlers, p⟩ := bot
    cases description <;> simp [descriptions]
  | cons declared early ih =>
    have same := descriptions_declare once
    rw [List.foldl_cons, ih (by rw [same]; exact once), same]
    cases declared <;> simp [declare, Early.memory?, Early.tools?, List.filterMap_cons]

/-- The declarations of a bot are those in front of its handlers and its handlers. -/
theorem Declared.sound {bot whole : Bot} (derived : Declared free bot ts whole rest) :
    ∃ early handled handlers stop, Preamble ts early handled ∧ (early ≠ [] → bot.handlers = []) ∧
      (descriptions bot early).length ≤ 1 ∧ Handlers free handled handlers (stop :: rest) ∧
      bot.handlers ++ handlers ≠ [] ∧ stop.isKeyword "end" ∧
      whole = handlers.foldl answer (early.foldl declare bot) := by
  induction derived with
  | @close stop rest bot closes nonempty =>
    refine ⟨[], _, [], _, .none _, by simp, ?_, .none _, by simpa using nonempty, closes, rfl⟩
    cases known : bot.description <;> simp [descriptions, known]
  | @more ts behind rest bot next whole first others ih =>
    obtain ⟨early, handled, handlers, stop, before, soon, once, answers, nonempty, closes, rfl⟩ :=
      ih
    obtain ⟨handler, handling, rfl⟩ | ⟨unhandled, declared, one, single, rfl⟩ := first
    · cases before with
      | none => exact ⟨[], _, handler :: handlers, stop, .none _, by simp, once,
        .more handling answers, by simp, closes, rfl⟩
      | more => exact absurd (soon (by simp)) (by simp [answer])
    · have kept : (descriptions bot (declared :: early)).length ≤ 1 := by
        cases declared with
        | description text =>
          simpa [descriptions, declare, Early.description?, List.filterMap_cons,
            single rfl] using once
        | memory block =>
          simpa [descriptions, declare, Early.description?, List.filterMap_cons] using once
        | tools names =>
          simpa [descriptions, declare, Early.description?, List.filterMap_cons] using once
      refine ⟨declared :: early, handled, handlers, stop, .more one before, fun _ => unhandled,
        kept, answers, ?_, closes, rfl⟩
      cases declared <;> exact nonempty

theorem Declared.of_handlers {handlers : List Handler} {stop : Token}
    (closes : stop.isKeyword "end") (derived : Handlers free ts handlers (stop :: rest)) (bot : Bot)
    (nonempty : bot.handlers ++ handlers ≠ []) :
    Declared free bot ts (handlers.foldl answer bot) rest := by
  induction handlers generalizing bot ts with
  | nil =>
    cases derived
    exact .close closes (by simpa using nonempty)
  | cons handler handlers ih =>
    cases derived with
    | more first further =>
      exact .more (.inl ⟨handler, first, rfl⟩) (ih further _ (by simp [answer]))

theorem Declared.of_preamble {early : List Early} {handled : List Token}
    (derived : Preamble ts early handled) {bot whole : Bot} (unhandled : bot.handlers = [])
    (once : (descriptions bot early).length ≤ 1)
    (others : Declared free (early.foldl declare bot) handled whole rest) :
    Declared free bot ts whole rest := by
  induction derived generalizing bot with
  | none => exact others
  | @more ts behind handled declared early first further ih =>
    refine .more (.inr ⟨unhandled, declared, first, ?_, rfl⟩) (ih ?_ ?_ others)
    · intro given
      cases declared <;>
        simp only [Early.description?, Option.isSome_none, Bool.false_eq_true] at given
      cases known : bot.description with
      | none => rfl
      | some other => simp [descriptions, Early.description?, known] at once
    · cases declared <;> exact unhandled
    · rw [descriptions_declare once]
      exact once

/-- A bot without declarations. -/
def bare (kind : BotKind) (name : String) (p : Position) : Bot where
  name := name
  kind := kind
  description := none
  memory := []
  tools := []
  handlers := []
  position := p

/-- Tokens start with a bot behind the word that declares it. -/
def BotAt (free : Token → Bool) (kind : BotKind) (p : Position) (ts : List Token) (bot : Bot)
    (rest : List Token) : Prop :=
  ∃ name behind, (ts = name :: behind ∧ (name.kind = .name || name.kind = .string)) ∧
    Declared free (bare kind name.text p) behind bot rest

theorem declared_iff {kind : BotKind} {name : String} {p : Position} {bot : Bot} :
    Declared free (bare kind name p) ts bot rest ↔
      ∃ early handled handlers stop, Preamble ts early handled ∧
      (early.filterMap Early.description?).length ≤ 1 ∧
      Handlers free handled handlers (stop :: rest) ∧ handlers ≠ [] ∧
      stop.isKeyword "end" ∧ bot = botOf kind name p early handlers := by
  have whole {early : List Early} (once : (early.filterMap Early.description?).length ≤ 1)
      (handlers : List Handler) :
      handlers.foldl answer (early.foldl declare (bare kind name p)) =
        botOf kind name p early handlers := by
    have single : (descriptions (bare kind name p) early).length ≤ 1 := once
    rw [answer_all, declare_all single]
    rfl
  constructor
  · intro derived
    obtain ⟨early, handled, handlers, stop, before, -, once, answers, nonempty, closes, rfl⟩ :=
      derived.sound
    exact ⟨early, handled, handlers, stop, before, once, answers, nonempty, closes,
      whole once handlers⟩
  · rintro ⟨early, handled, handlers, stop, before, once, answers, nonempty, closes, rfl⟩
    refine Declared.of_preamble before rfl once ?_
    rw [← whole once handlers]
    exact Declared.of_handlers closes answers _ (by simp [nonempty])

theorem Bots.cons_iff {word : Token} {bots : List Bot} :
    Bots free (word :: ts) bots ↔ ∃ kind, Reading.botKind? word = some kind ∧
      ∃ bot middle, BotAt free kind word.position ts bot middle ∧
        ∃ others, Bots free middle others ∧ bots = bot :: others := by
  constructor
  · intro derived
    cases derived with
    | more opens named declared once answered nonempty closes further =>
      exact ⟨_, opens, _, _, ⟨_, _, ⟨rfl, named⟩,
        declared_iff.mpr ⟨_, _, _, _, declared, once, answered, nonempty, closes, rfl⟩⟩,
        _, further, rfl⟩
  · rintro ⟨kind, opens, bot, middle, ⟨name, behind, ⟨rfl, named⟩, declared⟩, others, further, rfl⟩
    obtain ⟨early, handled, handlers, stop, before, once, answers, nonempty, closes, rfl⟩ :=
      declared_iff.mp declared
    exact .more opens named before once answers nonempty closes further

end Grammar

namespace Reading

open Grammar

variable {n : Nat} {word : Token}

/-! ## Memory -/

/-- The type of a memory variable. -/
theorem typeName_decides (source : Source n) :
    Decides Trailing.seen source.tokens Worded (TypeName source.tokens)
      (.ok (typeName source)) := by
  obtain ⟨tokens, few⟩ := source
  cases tokens with
  | nil =>
    refine ⟨List.suffix_rfl, .absent _, fun type rest derived _ => ?_⟩
    cases derived
    rfl
  | cons t behind =>
    simp only [typeName, Source.next?]
    split
    · rename_i plain
      obtain ⟨name, undotted⟩ : t.kind = .name ∧ t.isDotted = false := by simpa using plain
      refine ⟨List.suffix_cons t behind, .named name undotted, fun type rest derived worded => ?_⟩
      cases derived with
      | absent =>
        have keyword := worded t rfl
        rw [name] at keyword
        cases keyword
      | named => rfl
    · rename_i other
      refine ⟨List.suffix_rfl, .absent _, fun type rest derived _ => ?_⟩
      cases derived with
      | absent => rfl
      | named name plain => exact absurd (by simp [name, plain]) other

theorem not_typeName_of_colon {type : String} {ts rest : List Token} {t : Token}
    (colon : t.kind = .colon) (worded : Worded rest) : ¬ TypeName (t :: ts) type rest := by
  intro derived
  cases derived with
  | absent => exact absurd (worded t rfl) (by simp [colon])
  | named name => exact absurd name (by simp [colon])

/-- The colon and the type of a memory variable. -/
theorem colonAndType_decides (source : Source n) :
    Decides Trailing.seen source.tokens Worded
      (fun type rest => ∃ typed, Colon source.tokens typed ∧ TypeName typed type rest)
      (.ok ((skip (·.kind = .colon) source).andPerhaps
        (typeName (skip (·.kind = .colon) source).rest))) := by
  have decided :=
    (typeName_decides (skip (·.kind = .colon) source).rest).suffix (skip_suffix _ source)
  refine Decides.congr_at (decided.map (f := id) fun _ => rfl) ?_ ?_
  · rintro _ rest ⟨type, derived, rfl⟩
    obtain ⟨-, same⟩ | ⟨t, same, colon⟩ := skip_cases (·.kind = .colon) source
    · rw [same] at derived
      exact ⟨_, .absent _, derived⟩
    · rw [same]
      exact ⟨_, .present (by simpa using colon), derived⟩
  · rintro type rest ⟨typed, colon, derived⟩ worded
    refine ⟨type, ?_, rfl⟩
    obtain ⟨other, same⟩ | ⟨t, same, present⟩ := skip_cases (·.kind = .colon) source
    · rw [same]
      generalize source.tokens = tokens at *
      cases colon with
      | absent => exact derived
      | present colon => simp [colon] at other
    · rw [same] at colon
      cases colon with
      | absent => exact absurd derived (not_typeName_of_colon (by simpa using present) worded)
      | present => exact derived

theorem memoryVariable_decides (p : Position) (source : Source n) :
    Decides Parsed.seen source.tokens Worded (VariableAt p source.tokens)
      (memoryVariable p source) := by
  refine (bindingName_decides _ source).next _ fun name _ => ?_
  exact (colonAndType_decides name.rest).map (f := fun type => MemoryVariable.mk name.value type p)
    (g := fun type => (name.andPerhaps type).map fun type => MemoryVariable.mk name.value type p)
    fun _ => rfl

/-- The variables of a memory block, behind the variables in front. -/
theorem memoryVariables_decides (before : List MemoryVariable)
    (distinct : (before.map MemoryVariable.name).Nodup) (source : Source n) :
    Decides Parsed.seen source.tokens anywhere
      (fun all rest => ∃ vars, Grammar.Variables source.tokens vars rest ∧
        ((before ++ vars).map MemoryVariable.name).Nodup ∧ all = before ++ vars)
      (memoryVariables before source) := by
  rw [memoryVariables]
  cases peeked : source.next? with
  | none =>
    refine Decides.refused ?_
    rintro all rest ⟨vars, derived, -⟩
    rw [Source.next?_none peeked] at derived
    cases derived
  | some word =>
    have front := Source.next?_some peeked
    rw [front]
    dsimp only
    split
    · rename_i closes
      refine (Decides.parsed (word.map fun _ => before) (List.suffix_cons _ _)).congr
        fun all rest => ?_
      constructor
      · rintro ⟨rfl, rfl⟩
        exact ⟨[], .close closes, by simpa using distinct, by simp⟩
      · rintro ⟨vars, derived, -, rfl⟩
        obtain ⟨-, rfl, rfl⟩ | ⟨opens, -⟩ := Grammar.Variables.cons_iff.mp derived
        · exact ⟨List.append_nil _, rfl⟩
        · exact absurd opens (by simp [not_keyword_of_keyword closes])
    · rename_i open'
      split
      · rename_i opens
        refine (((memoryVariable_decides word.value.position word.rest).next_at
          (fun v final all rest => ∃ others,
          Grammar.Variables final others rest ∧
            ((before ++ v :: others).map MemoryVariable.name).Nodup ∧
            all = before ++ v :: others) ?_ fun v _ => ?_).suffix (List.suffix_cons _ _)).congr
            fun all rest => ?_
        · rintro v final all rest ⟨others, further, -⟩ -
          exact further.worded
        · split
          · rename_i taken
            refine Decides.refused ?_
            rintro all rest ⟨others, -, unique, -⟩ -
            exact not_nodup_of_any taken unique
          · rename_i new
            have shorter : v.rest.tokens.length < source.tokens.length := (word.andThen v).shorter
            have decided := memoryVariables_decides _ (nodup_append_single distinct new) v.rest
            refine (decided.map (f := id) fun _ => rfl).congr fun all rest => ?_
            simp [and_assoc]
        · constructor
          · rintro ⟨v, final, derived, others, further, unique, rfl⟩
            refine ⟨v :: others, Grammar.Variables.cons_iff.mpr (.inr ?_), unique, rfl⟩
            exact ⟨opens, v, final, derived, others, further, rfl⟩
          · rintro ⟨vars, derived, unique, rfl⟩
            obtain ⟨closes, -⟩ | ⟨-, v, final, one, others, further, rfl⟩ :=
              Grammar.Variables.cons_iff.mp derived
            · exact absurd closes open'
            · exact ⟨v, final, one, others, further, unique, rfl⟩
      · rename_i other
        refine Decides.refused ?_
        rintro all rest ⟨vars, derived, -⟩
        obtain ⟨closes, -⟩ | ⟨opens, -⟩ := Grammar.Variables.cons_iff.mp derived
        · exact absurd closes open'
        · exact absurd opens other
termination_by source.tokens.length

theorem memoryBlock_decides (p : Position) (source : Source n) :
    Decides Parsed.seen source.tokens anywhere (MemoryAt p source.tokens)
      (memoryBlock p source) := by
  rw [memoryBlock]
  cases peeked : source.next? with
  | none =>
    refine Decides.refused ?_
    rintro block rest ⟨_, _, _, impossible, -⟩
    rw [Source.next?_none peeked] at impossible
    cases impossible
  | some owner =>
    have front := Source.next?_some peeked
    rw [front]
    dsimp only
    rw [← scopeOf?.eq_def]
    cases known : scopeOf? owner.value with
    | none =>
      refine Decides.refused ?_
      rintro block rest ⟨_, _, scope, same, named, -⟩
      obtain ⟨rfl, -⟩ := List.cons.inj same
      cases known.symm.trans named
    | some scope =>
      refine (((memoryVariables_decides [] (by simp) owner.rest).map (f :=
        fun vars => MemoryBlock.mk scope vars p)
        fun _ => rfl).suffix (List.suffix_cons _ _)).congr fun block rest => ?_
      constructor
      · rintro ⟨vars, ⟨_, all, distinct, rfl⟩, rfl⟩
        exact ⟨_, _, scope, rfl, known, vars, all, distinct, rfl⟩
      · rintro ⟨_, _, other, same, named, vars, all, distinct, rfl⟩
        obtain ⟨rfl, rfl⟩ := List.cons.inj same
        obtain rfl := Option.some.inj (known.symm.trans named)
        exact ⟨vars, ⟨vars, all, distinct, rfl⟩, rfl⟩

/-! ## Tools -/

theorem toolNames_decides (source : Source n) :
    Decides Parsed.seen source.tokens Uncommaed (ToolNames source.tokens) (toolNames source) := by
  rw [toolNames]
  refine ((kind_decides .name .listedTool source).next
    (fun t middle => Peeks (fun t => t.kind = .comma)
    (fun names rest => names = [t.text] ∧ rest = middle)
    (fun _ behind names rest => ∃ others, ToolNames behind others rest ∧ names = t.text :: others)
    middle) ?_).congr_at ?_ ?_
  · intro first _
    cases peeked : first.rest.next? with
    | none => exact Decides.peek_none peeked (.parsed (first.map ([·.text])) List.suffix_rfl)
    | some comma =>
      refine Decides.peek_some peeked (fun _ => ?_) (.parsed (first.map ([·.text])) List.suffix_rfl)
      have shorter : comma.rest.tokens.length < source.tokens.length :=
        (first.andThen comma).shorter
      exact (toolNames_decides comma.rest).map fun _ => rfl
  · rintro names rest ⟨t, middle, name, ⟨-, last⟩ | more⟩
    · exact ToolNames.iff.mpr ⟨t, middle, name, .inl last⟩
    · exact ToolNames.iff.mpr ⟨t, middle, name, .inr more⟩
  · intro names rest derived ends
    obtain ⟨t, middle, name, ⟨rfl, rfl⟩ | more⟩ := ToolNames.iff.mp derived
    · exact ⟨t, _, name, .inl ⟨ends, rfl, rfl⟩⟩
    · exact ⟨t, middle, name, .inr more⟩
termination_by source.tokens.length

theorem tools_decides (source : Source n) :
    Decides Parsed.seen source.tokens Uncommaed (ToolsAt source.tokens) (tools source) := by
  rw [tools]
  cases peeked : source.next? with
  | none =>
    refine Decides.refused fun names rest derived _ => ?_
    rw [Source.next?_none peeked] at derived
    obtain all | ⟨_, _, _, impossible, -⟩ := derived
    · cases all
    · cases impossible
  | some opening =>
    have front := Source.next?_some peeked
    dsimp only
    cases bracket : closing? opening.value with
    | none =>
      refine (toolNames_decides source).congr fun names rest => ⟨.inl, ?_⟩
      rintro (all | ⟨_, _, kind, same, other, -⟩)
      · exact all
      · obtain ⟨rfl, -⟩ := List.cons.inj (front.symm.trans same)
        cases bracket.symm.trans other
    | some kind =>
      rw [front]
      refine (((toolNames_decides opening.rest).next_at (fun names middle all rest => ∃ closing,
        (middle = closing :: rest ∧ closing.kind = kind) ∧ all = names) ?_ fun names _ => ?_).suffix
          (List.suffix_cons _ _)).congr fun names rest => ?_
      · rintro names middle all rest ⟨closing, ⟨rfl, rfl⟩, -⟩ -
        exact Uncommaed.of_closing bracket
      · exact ((kind_decides kind .toolsEnd names.rest).map fun _ => rfl).everywhere
      · constructor
        · rintro ⟨_, _, all, closing, ⟨rfl, closes⟩, rfl⟩
          exact .inr ⟨_, _, kind, rfl, bracket, closing, all, closes⟩
        · rintro (all | ⟨_, _, _, same, other, closing, all, closes⟩)
          · exact absurd all (ToolNames.not_bracket bracket)
          · obtain ⟨rfl, rfl⟩ := List.cons.inj same
            obtain rfl := Option.some.inj (bracket.symm.trans other)
            exact ⟨names, _, all, closing, ⟨rfl, closes⟩, rfl⟩

/-! ## Handlers -/

theorem guard_decides (source : Source n) :
    Decides Trailing.seen source.tokens Settled (Guard source.tokens) (guard source) := by
  suffices decided : Decides Trailing.seen source.tokens Settled
      (Peeks (fun t => t.isKeyword "when")
        (fun condition rest => condition = none ∧ rest = source.tokens)
        (fun _ behind condition rest => ∃ e, Term behind e rest ∧ condition = some e) source.tokens)
        (guard source) by
    refine decided.congr_at ?_ ?_
    · rintro condition rest (⟨-, rfl, rfl⟩ | ⟨word, behind, same, introduces, e, derived, rfl⟩)
      · exact .absent _
      · rw [same]
        exact .present introduces derived
    · intro condition rest derived settled
      generalize source.tokens = tokens at derived
      cases derived with
      | absent => exact .inl ⟨fun t first => by simp [(settled.plain first).2.2.2.2], rfl, rfl⟩
      | present introduces derived => exact .inr ⟨_, _, rfl, introduces, _, derived, rfl⟩
  rw [guard]
  cases peeked : source.next? with
  | none => exact Decides.peek_none peeked (.trailing (.absent none) List.suffix_rfl)
  | some word =>
    refine Decides.peek_some peeked (fun _ => ?_) (.trailing (.absent none) List.suffix_rfl)
    exact ((term_decides word.rest).map fun _ => rfl).weaken fun _ settled => settled.ended

theorem handler_decides (opens : word.isKeyword "on") (source : Source n) :
    Decides Parsed.seen source.tokens anywhere (Handling unlinked (word :: source.tokens))
      (handler word.position source) := by
  refine ((token_decides _ _ source).next _ fun event _ => ?_).congr fun handler rest =>
    (Handling.iff opens).symm
  refine (guard_decides event.rest).bind _ ?_ fun condition _ _ => ?_
  · rintro condition inside handler rest - ⟨body, block, -⟩ -
    exact block.settled
  · exact (block_decides _ statement_decides condition.rest).map fun _ => rfl

/-! ## Bots -/

theorem declaration_decides (bot : Bot) (fine : declarationProblem? bot word = none)
    (source : Source n) :
    Decides Parsed.seen source.tokens Worded (OneMore unlinked bot (word :: source.tokens))
      (declaration bot word source) := by
  unfold declaration
  split
  · rename_i opens
    exact ((handler_decides opens source).everywhere.map fun _ => rfl).congr fun next rest =>
      (OneMore.on_iff opens).symm
  rename_i later
  obtain ⟨soon, words⟩ := (declarationProblem?_eq_none_iff.mp fine).resolve_left later
  split
  · rename_i opens
    have once : bot.description = none := by
      simpa [opens, not_keyword_of_keyword opens] using words
    refine ((token_decides Token.isString .descriptionText source).everywhere.map
      (f := fun t => declare bot (.description t.text)) fun _ => rfl).congr fun next rest => ?_
    simp [OneMore.early_iff later soon, EarlyDeclaration.description_iff opens, once, and_assoc]
  rename_i undescribed
  split
  · rename_i opens
    refine ((memoryBlock_decides word.position source).everywhere.map
      (f := fun block => declare bot (.memory block)) fun _ => rfl).congr fun next rest => ?_
    simp [OneMore.early_iff later soon, EarlyDeclaration.memory_iff opens, Early.description?]
  · rename_i unmemorable
    have opens : word.isKeyword "tools" := by simpa [undescribed, unmemorable] using words
    refine (((tools_decides source).weaken fun _ worded => worded.uncommaed).map
      (f := fun names => declare bot (.tools names)) fun _ => rfl).congr fun next rest => ?_
    simp [OneMore.early_iff later soon, EarlyDeclaration.tools_iff opens, Early.description?]

/-- The declarations of a bot, behind those in front. -/
theorem declarations_decides (bot : Bot) (name : Token) (source : Source n) :
    Decides Parsed.seen source.tokens anywhere (Declared unlinked bot source.tokens)
      (declarations bot name source) := by
  rw [declarations]
  cases peeked : source.next? with
  | none =>
    refine Decides.refused fun whole rest derived _ => ?_
    rw [Source.next?_none peeked] at derived
    exact Declared.not_nil derived
  | some word =>
    have front := Source.next?_some peeked
    rw [front]
    dsimp only
    split
    · rename_i closes
      split
      · rename_i unanswered
        refine Decides.refused fun whole rest derived _ => ?_
        obtain ⟨-, nonempty, -⟩ | ⟨goesOn, -⟩ := Declared.cons_iff.mp derived
        · exact nonempty (List.isEmpty_iff.mp unanswered)
        · exact absurd closes (by simp [goesOn])
      · rename_i answered
        refine (Decides.parsed (word.map fun _ => bot) (List.suffix_cons _ _)).congr
          fun whole rest => ?_
        rw [Declared.cons_iff]
        constructor
        · rintro ⟨rfl, rfl⟩
          exact .inl ⟨closes, fun empty => answered (List.isEmpty_iff.mpr empty), rfl, rfl⟩
        · rintro (⟨-, -, rfl, rfl⟩ | ⟨goesOn, -⟩)
          · exact ⟨rfl, rfl⟩
          · exact absurd closes (by simp [goesOn])
    · rename_i opens
      cases fine : declarationProblem? bot word.value with
      | some problem =>
        refine Decides.refused fun whole rest derived _ => ?_
        obtain ⟨closes, -⟩ | ⟨-, other, -⟩ := Declared.cons_iff.mp derived
        · exact opens closes
        · cases fine.symm.trans other
      | none =>
        refine (((declaration_decides bot fine word.rest).next_at
          (fun next behind whole rest => Declared unlinked next behind whole rest) ?_
          fun next _ => ?_).suffix
          (List.suffix_cons _ _)).congr fun whole rest => ?_
        · exact fun next behind whole rest others _ => others.worded
        · have shorter : next.rest.tokens.length < source.tokens.length :=
            (word.andThen next).shorter
          refine ((declarations_decides _ name next.rest).map (f := id) fun _ => rfl).congr
            fun whole rest => ?_
          simp
        · rw [Declared.cons_iff]
          constructor
          · exact fun more => .inr ⟨by simpa using opens, fine, more⟩
          · rintro (⟨closes, -⟩ | ⟨-, -, more⟩)
            · exact absurd closes opens
            · exact more
termination_by source.tokens.length

theorem bot_decides (kind : BotKind) (p : Position) (source : Source n) :
    Decides Parsed.seen source.tokens anywhere (BotAt unlinked kind p source.tokens)
      (bot kind p source) :=
  andThen_decides (token_decides _ _ source) _ fun name _ =>
    declarations_decides (bare kind name.value.text p) _ name.rest

/-- The bots of a program, behind those in front. -/
theorem bots_decides (before : List Bot) (distinct : (before.map Bot.name).Nodup)
    (source : Source n) :
    Decides toEnd source.tokens anywhere
      (fun all rest => rest = [] ∧ ∃ others, Bots unlinked source.tokens others ∧
        before ++ others ≠ [] ∧
        ((before ++ others).map Bot.name).Nodup ∧ all = before ++ others)
      (bots before source) := by
  rw [bots]
  cases peeked : source.next? with
  | none =>
    rw [Source.next?_none peeked]
    dsimp only
    split
    · rename_i empty
      refine Decides.refused ?_
      rintro all rest ⟨-, others, derived, nonempty, -⟩ -
      cases derived
      exact nonempty (by simpa using empty)
    · rename_i nonempty
      refine (Decides.done (a := before)
        (show toEnd before = (before, []) from rfl) List.nil_suffix).congr fun all rest => ?_
      constructor
      · rintro ⟨rfl, rfl⟩
        exact ⟨rfl, [], .none, by simpa using nonempty, by simpa using distinct, by simp⟩
      · rintro ⟨rfl, others, derived, -, -, rfl⟩
        cases derived
        simp
  | some word =>
    have front := Source.next?_some peeked
    rw [front]
    dsimp only
    cases opens : botKind? word.value with
    | none =>
      refine Decides.refused ?_
      rintro all rest ⟨-, others, derived, -⟩ -
      obtain ⟨kind, known, -⟩ := Bots.cons_iff.mp derived
      cases opens.symm.trans known
    | some kind =>
      refine (((bot_decides kind word.value.position word.rest).next
        (fun bot middle all rest => rest = [] ∧ ∃ others,
        Bots unlinked middle others ∧ before ++ bot :: others ≠ [] ∧
          ((before ++ bot :: others).map Bot.name).Nodup ∧ all = before ++ bot :: others)
          fun bot _ => ?_).suffix
            (List.suffix_cons _ _)).congr fun all rest => ?_
      · split
        · rename_i taken
          refine Decides.refused ?_
          rintro all rest ⟨-, others, -, -, unique, -⟩ -
          exact not_nodup_of_any taken unique
        · rename_i new
          have shorter : bot.rest.tokens.length < source.tokens.length := (word.andThen bot).shorter
          refine (bots_decides _ (nodup_append_single distinct new) bot.rest).congr
            fun all rest => ?_
          simp
      · constructor
        · rintro ⟨bot, middle, derived, rfl, others, further, nonempty, unique, rfl⟩
          have whole := Bots.cons_iff.mpr ⟨kind, opens, bot, middle, derived, others, further, rfl⟩
          exact ⟨rfl, bot :: others, whole, nonempty, unique, rfl⟩
        · rintro ⟨rfl, bots, derived, nonempty, unique, rfl⟩
          obtain ⟨_, known, bot, middle, one, others, further, rfl⟩ := Bots.cons_iff.mp derived
          obtain rfl := Option.some.inj (opens.symm.trans known)
          exact ⟨bot, middle, one, rfl, others, further, nonempty, unique, rfl⟩
termination_by source.tokens.length

/-- A program. -/
theorem program_decides (tokens : List Token) :
    Decides toEnd tokens anywhere (fun whole rest => rest = [] ∧ IsProgram unlinked tokens whole)
      (program tokens) := by
  refine ((bots_decides [] (by simp) (.all tokens)).map (f := Program.mk) fun _ => rfl).congr
    fun whole rest => ?_
  constructor
  · rintro ⟨_, ⟨rfl, bots, derived, nonempty, distinct, rfl⟩, rfl⟩
    exact ⟨rfl, derived, nonempty, distinct⟩
  · rintro ⟨rfl, derived, nonempty, distinct⟩
    exact ⟨whole.bots, ⟨rfl, whole.bots, derived, nonempty, distinct, rfl⟩, rfl⟩

end Reading

end BotScript
