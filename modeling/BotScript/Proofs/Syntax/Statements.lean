import BotScript.Proofs.Syntax.Templates
import BotScript.Syntax.Stmt.Reader

/-! Reading statements decides their grammar. Nothing stands between two statements, so a statement
must end where the next one starts or where its block is closed, and none of the tokens that do so
goes on with a statement. -/

namespace BotScript

namespace Grammar

variable {free : Token → Bool} {word t : Token} {ts rest behind : List Token} {stmt : Stmt}

/-- The keywords that start statements. -/
def statementWords : List String :=
  ["say", "ask", "set", "call", "if", "loop", "remember"]

/-- The token starts a statement. -/
def opensStatement (t : Token) : Bool :=
  (t.kind = .keyword && statementWords.contains t.text) || t.is .name "recall"

/-- The next token starts a statement or closes a block. -/
def Settled (rest : List Token) : Prop :=
  ∀ t ∈ rest.head?, opensStatement t ∨ t.isKeyword "end" ∨ t.isKeyword "else"

theorem kind_of_keyword {text : String} (word : t.isKeyword text) : t.kind = .keyword :=
  (Token.isKeyword_iff.mp word).1

theorem not_keyword_of_keyword {text other : String} (word : t.isKeyword text)
    (differs : text ≠ other) : t.isKeyword other = false := by
  obtain ⟨kind, rfl⟩ := Token.isKeyword_iff.mp word
  simp [Token.isKeyword, Token.is, kind, differs]

theorem Statement.opens (derived : Statement free ts stmt rest) :
    ∃ t more, ts = t :: more ∧ opensStatement t := by
  cases derived with
  | say opens | ask opens | set opens | call opens | branch opens | branchElse opens
  | loop opens | remember opens
  | rememberMore opens =>
    exact ⟨_, _, rfl, by simp [opensStatement, Token.isKeyword_iff.mp opens, statementWords]⟩
  | recollect opens => exact ⟨_, _, rfl, by simp [opensStatement, opens]⟩

theorem Statement.opens_at (derived : Statement free (t :: ts) stmt rest) : opensStatement t := by
  obtain ⟨_, _, same, opens⟩ := derived.opens
  obtain ⟨rfl, -⟩ := List.cons.inj same
  exact opens

/-- A token that starts a statement or closes a block does not go on with anything in front of
it. -/
theorem Settled.plain (settled : Settled rest) (first : t ∈ rest.head?) :
    Level.or.continues t = false ∧ t.kind ≠ .comma ∧ t.isKeyword "with" = false ∧
      t.isKeyword "as" = false ∧
      t.isKeyword "when" = false := by
  have words : (t.kind = .keyword ∧ t.text ∈ "end" :: "else" :: statementWords) ∨
      (t.kind = .name ∧ t.text = "recall") := by
    rcases settled t first with opens | stops | turns
    · simp only [opensStatement, Token.is, Bool.or_eq_true, Bool.and_eq_true, decide_eq_true_eq,
        List.contains_iff_mem] at opens
      exact opens.imp (fun both => ⟨both.1, by simp [both.2]⟩) id
    · exact .inl ((Token.isKeyword_iff.mp stops).imp_right (by simp +contextual))
    · exact .inl ((Token.isKeyword_iff.mp turns).imp_right (by simp +contextual))
  rcases words with ⟨kind, word⟩ | ⟨kind, word⟩
  · simp only [statementWords, List.mem_cons, List.not_mem_nil, or_false] at word
    rcases word with word | word | word | word | word | word | word | word | word <;>
      simp [Level.continues, Token.isKeyword, Token.is, Reading.isComparison,
        Reading.isOperator, kind, word]
  · simp [Level.continues, Token.isKeyword, Token.is, Reading.isComparison,
      Reading.isOperator, kind]

theorem Settled.ended (settled : Settled rest) : Ended .or rest :=
  fun _ first => (settled.plain first).1

theorem Settled.of_closer {stop : Token} (closes : stop.isKeyword "end" ∨ stop.isKeyword "else") :
    Settled (stop :: rest) := by
  intro t first
  obtain rfl := Option.some.inj first
  exact .inr closes

/-- Statements may follow one another. -/
theorem Statements.settled {stmts : List Stmt} (derived : Statements free ts stmts rest)
    (settled : Settled rest) :
    Settled ts := by
  cases derived with
  | none => exact settled
  | more first _ =>
    obtain ⟨t, more, rfl, opens⟩ := first.opens
    intro t first
    obtain rfl := Option.some.inj first
    exact .inl opens

/-! ## What comes behind an expression -/

theorem ended_of_keyword {text : String} (word : t.isKeyword text)
    (other : ∀ joint ∈ ["or", "and", "contains"], text ≠ joint) : Ended .or (t :: rest) := by
  obtain ⟨kind, rfl⟩ := Token.isKeyword_iff.mp word
  simp_all [ended_cons, Level.continues, Token.isKeyword, Token.is, Reading.isComparison,
    Reading.isOperator]

theorem Options.ended {fields : List (String × Expr)} (derived : Options ts fields rest)
    (settled : Settled rest) :
    Ended .or ts := by
  cases derived with
  | absent => exact settled.ended
  | braces introduces | bare introduces => exact ended_of_keyword introduces (by decide)

theorem Naming.ended {name : Option String} (derived : Naming ts name rest)
    (settled : Settled rest) :
    Ended .or ts := by
  cases derived with
  | absent => exact settled.ended
  | named binds => exact ended_of_keyword binds (by decide)

/-! ## What options consist of -/

theorem Choices.iff {choices : List (String × Expr)} :
    Choices ts choices rest ↔ ∃ key middle, (ts = key :: middle ∧ isOptionName key) ∧
      ∃ colon more, (middle = colon :: more ∧ colon.kind = .colon) ∧
        ∃ e behind, Term more e behind ∧
        ((choices = [(key.text, e)] ∧ rest = behind) ∨ ∃ comma further, behind = comma :: further ∧
          comma.kind = .comma ∧ ∃ others, Choices further others rest ∧
            choices = (key.text, e) :: others) := by
  constructor
  · intro derived
    cases derived with
    | last named means only =>
      exact ⟨_, _, ⟨rfl, named⟩, _, _, ⟨rfl, means⟩, _, _, only, .inl ⟨rfl, rfl⟩⟩
    | more named means first separates further =>
      exact ⟨_, _, ⟨rfl, named⟩, _, _, ⟨rfl, means⟩, _, _, first,
        .inr ⟨_, _, rfl, separates, _, further, rfl⟩⟩
  · rintro ⟨key, _, ⟨rfl, named⟩, colon, more, ⟨rfl, means⟩, e, behind, first,
      ⟨rfl, rfl⟩ | ⟨comma, further, rfl, separates, others, all, rfl⟩⟩
    · exact .last named means first
    · exact .more named means first separates all

theorem Choices.not_brace {choices : List (String × Expr)}
    (opens : ts.head?.any (·.kind = .leftBrace)) :
    ¬ Choices ts choices rest := by
  intro derived
  obtain ⟨key, _, ⟨rfl, named⟩, -⟩ := Choices.iff.mp derived
  simp only [List.head?_cons, Option.any_some, decide_eq_true_eq] at opens
  simp [isOptionName, opens] at named

theorem Braces.opens {fields : List (String × Expr)} (derived : Braces ts fields rest) :
    ts.head?.any (·.kind = .leftBrace) := by
  cases derived with
  | object opens => simp [opens]

/-! ## What a statement consists of -/

theorem Statement.say_iff (opens : word.isKeyword "say") :
    Statement free (word :: ts) stmt rest ↔ ∃ e, Term ts e rest ∧ stmt = .say e word.position := by
  constructor
  · intro derived
    cases derived with
    | say _ said => exact ⟨_, said, rfl⟩
    | _ => simp_all [Token.isKeyword, Token.is]
  · rintro ⟨e, said, rfl⟩
    exact .say opens said

theorem Statement.ask_iff (opens : word.isKeyword "ask") :
    Statement free (word :: ts) stmt rest ↔
      ∃ assistant more, (ts = assistant :: more ∧ assistant.is .name "ai") ∧
      ∃ prompt behind, Term more prompt behind ∧ ∃ options, Options behind options rest ∧
        stmt = .ask prompt options word.position := by
  constructor
  · intro derived
    cases derived with
    | ask _ addressed asked chosen => exact ⟨_, _, ⟨rfl, addressed⟩, _, _, asked, _, chosen, rfl⟩
    | _ => simp_all [Token.isKeyword, Token.is]
  · rintro ⟨assistant, more, ⟨rfl, addressed⟩, prompt, behind, asked, options, chosen, rfl⟩
    exact .ask opens addressed asked chosen

theorem Statement.set_iff (opens : word.isKeyword "set") :
    Statement free (word :: ts) stmt rest ↔
      ∃ name more, (∃ t, ts = t :: more ∧ isBinding t ∧ name = t.text) ∧
      ∃ behind, Link free more behind ∧ ∃ e, Term behind e rest ∧
        stmt = .set name e word.position := by
  constructor
  · intro derived
    cases derived with
    | set _ plain link given => exact ⟨_, _, ⟨_, rfl, plain, rfl⟩, _, link, _, given, rfl⟩
    | _ => simp_all [Token.isKeyword, Token.is]
  · rintro ⟨_, more, ⟨t, rfl, plain, rfl⟩, behind, link, e, given, rfl⟩
    exact .set opens plain link given

theorem Statement.call_iff (opens : word.isKeyword "call") :
    Statement free (word :: ts) stmt rest ↔ ∃ tool more, (ts = tool :: more ∧ tool.kind = .name) ∧
      ∃ link between, (more = link :: between ∧ link.isKeyword "with") ∧
        ∃ args behind, Braces between args behind ∧ ∃ name, Naming behind name rest ∧
          stmt = .call tool.text args name word.position := by
  constructor
  · intro derived
    cases derived with
    | call _ named introduces given bound =>
      exact ⟨_, _, ⟨rfl, named⟩, _, _, ⟨rfl, introduces⟩, _, _, given, _, bound, rfl⟩
    | _ => simp_all [Token.isKeyword, Token.is]
  · rintro ⟨tool, more, ⟨rfl, named⟩, link, between, ⟨rfl, introduces⟩, args, behind, given,
      name, bound, rfl⟩
    exact .call opens named introduces given bound

/-- Statements and the keyword that closes them. -/
def Block (free : Token → Bool) (owner : BlockOwner) (ts : List Token) (all : List Stmt × Token)
    (rest : List Token) :
    Prop :=
  Statements free ts all.1 (all.2 :: rest) ∧ owner.isClosedBy all.2

theorem not_opensStatement_of_closer {owner : BlockOwner} (closes : owner.isClosedBy t) :
    opensStatement t = false := by
  simp only [BlockOwner.isClosedBy, Token.isKeyword, Token.is, Bool.or_eq_true, Bool.and_eq_true,
    decide_eq_true_eq] at closes
  rcases closes with word | ⟨-, word⟩ <;> simp [opensStatement, statementWords, Token.is, word]

/-- A closed block is empty or starts with a statement. -/
theorem Block.iff {owner : BlockOwner} {all : List Stmt × Token} :
    Block free owner ts all rest ↔ (ts = all.2 :: rest ∧ owner.isClosedBy all.2 ∧ all.1 = []) ∨
      ∃ first behind, Statement free ts first behind ∧
        ∃ others, Block free owner behind others rest ∧
        all = (first :: others.1, others.2) := by
  obtain ⟨stmts, stop⟩ := all
  constructor
  · rintro ⟨derived, closes⟩
    dsimp only at derived
    cases derived with
    | none => exact .inl ⟨rfl, closes, rfl⟩
    | more first others => exact .inr ⟨_, _, first, (_, stop), ⟨others, closes⟩, rfl⟩
  · rintro (⟨rfl, closes, rfl⟩ | ⟨first, behind, derived, others, ⟨inner, closes⟩, same⟩)
    · exact ⟨.none _, closes⟩
    · obtain ⟨rfl, rfl⟩ := Prod.mk.inj same
      exact ⟨.more derived inner, closes⟩

theorem Block.settled {owner : BlockOwner} {all : List Stmt × Token}
    (derived : Block free owner ts all rest) :
    Settled ts := by
  obtain ⟨inner, closes⟩ := derived
  refine inner.settled (.of_closer ?_)
  simp only [BlockOwner.isClosedBy, Bool.or_eq_true, Bool.and_eq_true] at closes
  exact closes.imp id And.right

theorem Statement.branch_iff (opens : word.isKeyword "if") :
    Statement free (word :: ts) stmt rest ↔ ∃ condition behind, Term ts condition behind ∧
      ∃ body between, Block free .ifBody behind body between ∧
        ((body.2.isKeyword "else" ∧ ∃ other, Block free .elseBody between other rest ∧
            stmt = .branch condition body.1 (some other.1) word.position) ∨
          (body.2.isKeyword "else" = false ∧
            stmt = .branch condition body.1 none word.position ∧ rest = between)) := by
  constructor
  · intro derived
    cases derived with
    | branch _ tested body closes =>
      exact ⟨_, _, tested, (_, _), _, ⟨body, by simp [BlockOwner.isClosedBy, closes]⟩,
        .inr ⟨not_keyword_of_keyword closes (by decide), rfl, rfl⟩⟩
    | branchElse _ tested body turns other closes =>
      exact ⟨_, _, tested, (_, _), _, ⟨body, by simp [BlockOwner.isClosedBy, turns]⟩,
        .inl ⟨turns, (_, _), ⟨other, by simp [BlockOwner.isClosedBy, closes]⟩, rfl⟩⟩
    | _ => simp_all [Token.isKeyword, Token.is]
  · rintro ⟨condition, behind, tested, body, between, ⟨inner, closes⟩,
      ⟨turns, other, ⟨otherwise, stops⟩, rfl⟩ | ⟨plain, rfl, rfl⟩⟩
    · exact .branchElse opens tested inner turns otherwise
        (by simpa [BlockOwner.isClosedBy] using stops)
    · exact .branch opens tested inner (by simpa [BlockOwner.isClosedBy, plain] using closes)

theorem Statement.loop_iff (opens : word.isKeyword "loop") :
    Statement free (word :: ts) stmt rest ↔
      ∃ item more, (∃ t, ts = t :: more ∧ isBinding t ∧ item = t.text) ∧
      ∃ link between, (more = link :: between ∧ link.isKeyword "in") ∧
        ∃ e behind,
          (∃ t, (between = t :: behind ∧ Reading.isReference t) ∧ e = Reading.referenceOf t) ∧
          ∃ body, Block free .loopBody behind body rest ∧
            stmt = .loop item e body.1 word.position := by
  constructor
  · intro derived
    cases derived with
    | loop _ plain introduces names inner closes =>
      exact ⟨_, _, ⟨_, rfl, plain, rfl⟩, _, _, ⟨rfl, introduces⟩, _, _,
        ⟨_, ⟨rfl, names⟩, rfl⟩, (_, _),
        ⟨inner, by simp [BlockOwner.isClosedBy, closes]⟩, rfl⟩
    | _ => simp_all [Token.isKeyword, Token.is]
  · rintro ⟨_, more, ⟨item, rfl, plain, rfl⟩, link, between, ⟨rfl, introduces⟩, _, behind,
      ⟨t, ⟨rfl, names⟩, rfl⟩, body,
      ⟨inner, closes⟩, rfl⟩
    exact .loop opens plain introduces names inner (by simpa [BlockOwner.isClosedBy] using closes)

/-- The way a value is remembered behind a word. -/
def modeOf (link : Token) : RememberMode :=
  if link.isKeyword "as" then .set else .append

theorem Statement.remember_iff (opens : word.isKeyword "remember") :
    Statement free (word :: ts) stmt rest ↔ ∃ key behind, Term ts key behind ∧
      ∃ link more, (behind = link :: more ∧ (link.isKeyword "as" || link.is .name "append")) ∧
        ∃ value, Term more value rest ∧ stmt = .remember key value (modeOf link) word.position := by
  constructor
  · intro derived
    cases derived with
    | remember _ keyed replaces given =>
      exact ⟨_, _, keyed, _, _, ⟨rfl, by simp [replaces]⟩, _, given, by simp [modeOf, replaces]⟩
    | rememberMore _ keyed appends given =>
      refine ⟨_, _, keyed, _, _, ⟨rfl, by simp [appends]⟩, _, given, ?_⟩
      simp_all [modeOf, Token.isKeyword, Token.is]
    | _ => simp_all [Token.isKeyword, Token.is]
  · rintro ⟨key, behind, keyed, link, more, ⟨rfl, mode⟩, value, given, rfl⟩
    by_cases replaces : link.isKeyword "as"
    · rw [modeOf, if_pos replaces]
      exact .remember opens keyed replaces given
    · rw [modeOf, if_neg replaces]
      exact .rememberMore opens keyed (by simpa [replaces] using mode) given

theorem Statement.recollect_iff (opens : word.is .name "recall") :
    Statement free (word :: ts) stmt rest ↔
      ∃ key behind, Term ts key behind ∧ ∃ name, Naming behind name rest ∧
      stmt = .recollect key (name.getD Stmt.resultName) word.position := by
  constructor
  · intro derived
    cases derived with
    | recollect _ keyed bound => exact ⟨_, _, keyed, _, bound, rfl⟩
    | _ => simp_all [Token.isKeyword, Token.is]
  · rintro ⟨key, behind, keyed, name, bound, rfl⟩
    exact .recollect opens keyed bound

end Grammar

namespace Reading

open Grammar

variable {n : Nat} {word : Token}

/-! ## Readers of what stands in a statement -/

/-- An expression of a program. -/
theorem term_decides (source : Source n) :
    Decides Parsed.seen source.tokens (Ended .or) (Term source.tokens)
      (expression template source) :=
  (expression_decides complaining_template source).imp (fun _ _ both => both.1)
    fun _ _ derived ended => ⟨⟨derived, ended⟩, trivial⟩

/-- An object in braces. -/
theorem entries_decides (source : Source n) :
    Decides Parsed.seen source.tokens anywhere (Braces source.tokens)
      (entries (expression template) source) := by
  refine (andThen_decides (symbol_decides .leftBrace "\x7b" source) (fun _ middle fields rest =>
    ∃ all, Fields template middle all rest ∧ Entries.Distinct ([] ++ all) ∧
      fields = [] ++ all) ?_).congr ?_
  · exact fun opening _ => entriesAfter_decides (expression_decides complaining_template) []
      (by simp [Entries.Distinct])
      opening.rest
  · intro fields rest
    constructor
    · rintro ⟨t, more, ⟨same, opens⟩, _, all, distinct, rfl⟩
      rw [same]
      exact .object opens all distinct
    · rintro derived
      generalize source.tokens = tokens at derived
      cases derived with
      | object opens all distinct => exact ⟨_, _, ⟨rfl, opens⟩, _, all, distinct, rfl⟩

/-- Options without braces, behind the options in front. -/
theorem bareOptions_decides (before : List (String × Expr)) (source : Source n) :
    Decides Parsed.seen source.tokens Settled
      (fun all rest => ∃ choices, Choices source.tokens choices rest ∧
        all = Entries.putAll before choices)
      (bareOptions before source) := by
  rw [bareOptions]
  refine ((token_decides isOptionName .optionName source).next (fun key middle all rest =>
    ∃ colon more, (middle = colon :: more ∧ colon.kind = .colon) ∧ ∃ e behind, Term more e behind ∧
      Peeks (fun t => t.kind = .comma)
      (fun all rest => all = Entries.put before key.text e ∧ rest = behind)
        (fun _ further all rest => ∃ choices, Choices further choices rest ∧
          all = Entries.putAll (Entries.put before key.text e) choices) behind all rest)
            ?_).congr_at ?_ ?_
  · intro key _
    refine (symbol_decides _ _ key.rest).next _ fun colon _ => ?_
    refine (term_decides colon.rest).next_at _ ?_ fun value _ => ?_
    · rintro e behind all rest (⟨-, -, rfl⟩ | ⟨comma, further, rfl, separates, -⟩) settled
      · exact settled.ended
      · exact ended_cons.mpr (not_continues_of_kind (by simp [separates]) (by simp [separates]))
    · cases peeked : value.rest.next? with
      | none =>
        exact Decides.peek_none peeked (.parsed ((key.andThen (colon.andThen value)).map fun _ =>
          Entries.put before key.value.text value.value) List.suffix_rfl)
      | some comma =>
        refine Decides.peek_some peeked (fun _ => ?_)
          (.parsed ((key.andThen (colon.andThen value)).map fun _ =>
          Entries.put before key.value.text value.value) List.suffix_rfl)
        have shorter : comma.rest.tokens.length < source.tokens.length :=
          (key.andThen (colon.andThen (value.andThen comma))).shorter
        refine ((bareOptions_decides _ comma.rest).map (f := id) fun _ => rfl).congr
          fun all rest => ?_
        simp
  · rintro all rest ⟨key, middle, named, colon, more, means, e, behind, first,
      ⟨-, rfl, rfl⟩ | ⟨comma, further, rfl, separates, choices, others, rfl⟩⟩
    · exact ⟨[(key.text, e)],
        Choices.iff.mpr ⟨_, _, named, _, _, means, _, _, first, .inl ⟨rfl, rfl⟩⟩, rfl⟩
    · exact ⟨(key.text, e) :: choices,
        Choices.iff.mpr ⟨_, _, named, _, _, means, _, _, first,
          .inr ⟨_, _, rfl, separates, _, others, rfl⟩⟩, rfl⟩
  · rintro all rest ⟨choices, derived, rfl⟩ settled
    obtain ⟨key, middle, named, colon, more, means, e, behind, first,
      ⟨rfl, rfl⟩ | ⟨comma, further, rfl, separates, others, all, rfl⟩⟩ := Choices.iff.mp derived
    · exact ⟨_, _, named, _, _, means, _, _, first,
        .inl ⟨fun t next => (settled.plain next).2.1, rfl, rfl⟩⟩
    · exact ⟨_, _, named, _, _, means, _, _, first, .inr ⟨_, _, rfl, separates, _, all, rfl⟩⟩
termination_by source.tokens.length

/-- The options of a prompt. -/
theorem options_decides (source : Source n) :
    Decides Trailing.seen source.tokens Settled (Options source.tokens) (options source) := by
  suffices decided : Decides Trailing.seen source.tokens Settled
      (Peeks (fun t => t.isKeyword "with") (fun fields rest => fields = [] ∧ rest = source.tokens)
        (fun _ behind fields rest => Braces behind fields rest ∨
          ∃ choices, Choices behind choices rest ∧ fields = Entries.ofList choices) source.tokens)
          (options source) by
    refine decided.congr_at ?_ ?_
    · rintro fields rest (⟨-, rfl, rfl⟩ |
        ⟨word, behind, same, introduces, braces | ⟨choices, bare, rfl⟩⟩)
      · exact .absent _
      · rw [same]
        exact .braces introduces braces
      · rw [same]
        exact .bare introduces bare
    · intro fields rest derived settled
      generalize source.tokens = tokens at derived
      cases derived with
      | absent => exact .inl ⟨fun t first => by simp [(settled.plain first).2.2.1], rfl, rfl⟩
      | braces introduces all => exact .inr ⟨_, _, rfl, introduces, .inl all⟩
      | bare introduces all => exact .inr ⟨_, _, rfl, introduces, .inr ⟨_, all, rfl⟩⟩
  rw [options]
  cases peeked : source.next? with
  | none => exact Decides.peek_none peeked (.trailing (.absent []) List.suffix_rfl)
  | some word =>
    refine Decides.peek_some peeked (fun _ => ?_) (.trailing (.absent []) List.suffix_rfl)
    dsimp only
    split
    · rename_i opens
      refine ((entries_decides word.rest).everywhere.map (f := id) fun _ => rfl).congr
        fun fields rest => ?_
      constructor
      · rintro ⟨_, braces, rfl⟩
        exact .inl braces
      · rintro (braces | ⟨choices, bare, -⟩)
        · exact ⟨fields, braces, rfl⟩
        · exact absurd bare (Choices.not_brace opens)
    · rename_i other
      refine ((bareOptions_decides [] word.rest).map (f := id) fun _ => rfl).congr
        fun fields rest => ?_
      constructor
      · rintro ⟨_, ⟨choices, bare, rfl⟩, rfl⟩
        exact .inr ⟨choices, bare, rfl⟩
      · rintro (braces | ⟨choices, bare, rfl⟩)
        · exact absurd braces.opens other
        · exact ⟨_, ⟨choices, bare, rfl⟩, rfl⟩

/-- A plain variable behind the word `as`. -/
theorem bindingAfterAs_decides (site : BindingSite) (source : Source n) :
    Decides Trailing.seen source.tokens Settled (Naming source.tokens)
      (bindingAfterAs site source) := by
  suffices decided : Decides Trailing.seen source.tokens Settled
      (Peeks (fun t => t.isKeyword "as") (fun name rest => name = none ∧ rest = source.tokens)
        (fun _ behind name rest => ∃ text,
          (∃ t, behind = t :: rest ∧ isBinding t ∧ text = t.text) ∧ name = some text)
        source.tokens) (bindingAfterAs site source) by
    refine decided.congr_at ?_ ?_
    · rintro name rest (⟨-, rfl, rfl⟩ | ⟨word, _, same, binds, _, ⟨t, rfl, plain, rfl⟩, rfl⟩)
      · exact .absent _
      · rw [same]
        exact .named binds plain
    · intro name rest derived settled
      generalize source.tokens = tokens at derived
      cases derived with
      | absent => exact .inl ⟨fun t first => by simp [(settled.plain first).2.2.2.1], rfl, rfl⟩
      | named binds plain => exact .inr ⟨_, _, rfl, binds, _, ⟨_, rfl, plain, rfl⟩, rfl⟩
  rw [bindingAfterAs]
  cases peeked : source.next? with
  | none => exact Decides.peek_none peeked (.trailing (.absent none) List.suffix_rfl)
  | some word =>
    refine Decides.peek_some peeked (fun _ => ?_) (.trailing (.absent none) List.suffix_rfl)
    exact ((bindingName_decides site word.rest).map fun _ => rfl).everywhere

/-- The link of a `set`. -/
theorem link_iff (source : Source n) (behind : List Token) :
    Link unlinked source.tokens behind ↔ behind = (skip isLink source).rest.tokens := by
  obtain ⟨other, same⟩ | ⟨t, same, links⟩ := skip_cases isLink source
  · rw [same]
    constructor
    · intro link
      generalize source.tokens = tokens at *
      cases link with
      | word links => exact absurd links (by simp [other _ rfl])
      | absent => rfl
    · rintro rfl
      exact .absent (by cases head : source.tokens.head? <;> simp_all)
  · constructor
    · intro link
      rw [same] at link
      cases link with
      | word => rfl
      | absent allowed => simp [links] at allowed
    · rintro rfl
      rw [same]
      exact .word links

/-! ## Readers of statements -/

theorem say_decides (opens : word.isKeyword "say") (source : Source n) :
    Decides Parsed.seen source.tokens Settled (Statement unlinked (word :: source.tokens))
      (say word.position source) := by
  refine ((map_decides (term_decides source)).weaken fun _ settled => settled.ended).congr
    fun stmt rest => ?_
  exact (Statement.say_iff opens).symm

theorem ask_decides (opens : word.isKeyword "ask") (source : Source n) :
    Decides Parsed.seen source.tokens Settled (Statement unlinked (word :: source.tokens))
      (ask word.position source) := by
  refine ((token_decides _ _ source).next _ fun assistant _ => ?_).congr fun stmt rest =>
    (Statement.ask_iff opens).symm
  refine (term_decides assistant.rest).next_at _ ?_ fun prompt _ => ?_
  · rintro e behind stmt rest ⟨fields, chosen, -⟩ settled
    exact chosen.ended settled
  · exact (options_decides prompt.rest).map fun _ => rfl

theorem set_decides (opens : word.isKeyword "set") (source : Source n) :
    Decides Parsed.seen source.tokens Settled (Statement unlinked (word :: source.tokens))
      (set word.position source) := by
  refine ((bindingName_decides _ source).next _ fun name _ => ?_).congr fun stmt rest =>
    (Statement.set_iff opens).symm
  refine ((((term_decides (skip isLink name.rest).rest).weaken fun _ settled =>
    settled.ended).map (f :=
    (.set name.value · word.position)) fun _ => rfl).suffix (skip_suffix _ _)).congr
    fun stmt rest => ?_
  simp only [link_iff, exists_eq_left]

theorem call_decides (opens : word.isKeyword "call") (source : Source n) :
    Decides Parsed.seen source.tokens Settled (Statement unlinked (word :: source.tokens))
      (call word.position source) := by
  refine ((kind_decides _ _ source).next _ fun tool _ => ?_).congr fun stmt rest =>
    (Statement.call_iff opens).symm
  refine (token_decides _ _ tool.rest).next _ fun link _ => ?_
  refine (entries_decides link.rest).next _ fun args _ => ?_
  exact (bindingAfterAs_decides _ args.rest).map fun _ => rfl

theorem remember_decides (opens : word.isKeyword "remember") (source : Source n) :
    Decides Parsed.seen source.tokens Settled (Statement unlinked (word :: source.tokens))
      (remember word.position source) := by
  refine ((term_decides source).next_at _ ?_ fun key _ => ?_).congr fun stmt rest =>
    (Statement.remember_iff opens).symm
  · rintro e behind stmt rest ⟨link, more, ⟨rfl, mode⟩, -⟩ -
    rcases Bool.or_eq_true_iff.mp mode with replaces | appends
    · exact ended_of_keyword replaces (by decide)
    · simp only [Token.is, Bool.and_eq_true, decide_eq_true_eq] at appends
      exact ended_cons.mpr (not_continues_of_kind (by simp [appends]) (by simp [appends]))
  · refine (token_decides _ _ key.rest).next _ fun link _ => ?_
    exact ((term_decides link.rest).weaken fun _ settled => settled.ended).map fun _ => rfl

theorem recollect_decides (opens : word.is .name "recall") (source : Source n) :
    Decides Parsed.seen source.tokens Settled (Statement unlinked (word :: source.tokens))
      (recollect word.position source) := by
  refine ((term_decides source).next_at _ ?_ fun key _ => ?_).congr fun stmt rest =>
    (Statement.recollect_iff opens).symm
  · rintro e behind stmt rest ⟨name, bound, -⟩ settled
    exact bound.ended settled
  · exact (bindingAfterAs_decides _ key.rest).map fun _ => rfl

/-- A reading reads statements. -/
def DecidesStatement (reading : Reading n Stmt) : Prop :=
  ∀ source : Source n,
    Decides Parsed.seen source.tokens Settled (Statement unlinked source.tokens) (reading source)

/-- Statements up to the keyword that closes them. -/
theorem block_decides (owner : BlockOwner) {nested : Reading n Stmt}
    (decided : DecidesStatement nested) (source : Source n) :
    Decides Parsed.seen source.tokens anywhere (Block unlinked owner source.tokens)
      (block owner nested source) := by
  rw [block]
  cases peeked : source.next? with
  | none =>
    refine Decides.refused fun all rest derived _ => ?_
    rw [Source.next?_none peeked] at derived
    obtain ⟨impossible, -⟩ | ⟨first, behind, statement, -⟩ := Block.iff.mp derived
    · cases impossible
    · obtain ⟨_, _, impossible, -⟩ := statement.opens
      cases impossible
  | some next =>
    have front := Source.next?_some peeked
    dsimp only
    split
    · rename_i closes
      refine (Decides.parsed (next.map fun t => ([], t)) (front ▸ List.suffix_cons _ _)).congr
        fun all rest => ?_
      rw [Block.iff, front]
      constructor
      · rintro ⟨rfl, rfl⟩
        exact .inl ⟨rfl, closes, rfl⟩
      · rintro (⟨same, -, empty⟩ | ⟨first, behind, statement, -⟩)
        · obtain ⟨stop, behind⟩ := List.cons.inj same
          exact ⟨Prod.ext empty stop.symm, behind.symm⟩
        · exact absurd statement.opens_at (by simp [not_opensStatement_of_closer closes])
    · rename_i opens
      refine ((decided source).next_at (fun stmt middle all rest => ∃ others,
        Block unlinked owner middle others rest ∧
        all = (stmt :: others.1, others.2)) ?_ fun first _ => ?_).congr fun all rest => ?_
      · rintro stmt middle all rest ⟨others, inner, -⟩ -
        exact inner.settled
      · have shorter : first.rest.tokens.length < source.tokens.length := first.shorter
        exact (block_decides owner decided first.rest).map fun _ => rfl
      · rw [Block.iff]
        constructor
        · exact .inr
        · rintro (⟨same, closes, -⟩ | statements)
          · obtain ⟨stop, -⟩ := List.cons.inj (front.symm.trans same)
            exact absurd closes (stop ▸ opens)
          · exact statements
termination_by source.tokens.length

theorem branch_decides (opens : word.isKeyword "if") {nested : Reading n Stmt}
    (decided : DecidesStatement nested) (source : Source n) :
    Decides Parsed.seen source.tokens Settled (Statement unlinked (word :: source.tokens))
      (branch nested word.position source) := by
  refine ((term_decides source).next_at _ ?_ fun condition _ => ?_).congr fun stmt rest =>
    (Statement.branch_iff opens).symm
  · rintro e behind stmt rest ⟨body, between, block, -⟩ -
    exact block.settled.ended
  refine (block_decides _ decided condition.rest).next _ fun body _ => ?_
  split
  · rename_i turns
    refine ((block_decides _ decided body.rest).map (f := fun other =>
      Stmt.branch condition.value body.value.1 (some other.1) word.position) fun _ =>
        rfl).everywhere.congr
        fun stmt rest => ?_
    simp [turns]
  · rename_i plain
    refine (Decides.parsed ((condition.andThen body).map fun all =>
      Stmt.branch condition.value all.1 none word.position) List.suffix_rfl).congr
      fun stmt rest => ?_
    simp [plain, Parsed.map, Parsed.andThen]

theorem loop_decides (opens : word.isKeyword "loop") {nested : Reading n Stmt}
    (decided : DecidesStatement nested) (source : Source n) :
    Decides Parsed.seen source.tokens Settled (Statement unlinked (word :: source.tokens))
      (loop nested word.position source) := by
  refine ((bindingName_decides _ source).next _ fun item _ => ?_).congr fun stmt rest =>
    (Statement.loop_iff opens).symm
  refine (token_decides _ _ item.rest).next _ fun link _ => ?_
  refine (map_decides (token_decides _ _ link.rest)).next _ fun collection _ => ?_
  exact ((block_decides _ decided collection.rest).map fun _ => rfl).everywhere

/-- A statement behind its first word. -/
theorem statementBehind_decides {nested : Reading n Stmt} (decided : DecidesStatement nested)
    {reading : Reading n Stmt} (known : statementBehind word nested = some reading)
    (source : Source n) :
    Decides Parsed.seen source.tokens Settled (Statement unlinked (word :: source.tokens))
      (reading source) := by
  unfold statementBehind at known
  split at known
  · obtain rfl := Option.some.inj known
    exact say_decides (by assumption) source
  split at known
  · obtain rfl := Option.some.inj known
    exact ask_decides (by assumption) source
  split at known
  · obtain rfl := Option.some.inj known
    exact set_decides (by assumption) source
  split at known
  · obtain rfl := Option.some.inj known
    exact call_decides (by assumption) source
  split at known
  · obtain rfl := Option.some.inj known
    exact branch_decides (by assumption) decided source
  split at known
  · obtain rfl := Option.some.inj known
    exact loop_decides (by assumption) decided source
  split at known
  · obtain rfl := Option.some.inj known
    exact remember_decides (by assumption) source
  split at known
  · obtain rfl := Option.some.inj known
    exact recollect_decides (by assumption) source
  · cases known

theorem statementBehind_none {nested : Reading n Stmt}
    (unknown : statementBehind word nested = none) :
    opensStatement word = false := by
  by_contra opens
  simp only [opensStatement, statementWords, Bool.not_eq_false, Bool.or_eq_true, Bool.and_eq_true,
    decide_eq_true_eq, List.contains_iff_mem, List.mem_cons, List.not_mem_nil, or_false] at opens
  rcases opens with ⟨kind, text | text | text | text | text | text | text⟩ | recalled <;>
    simp_all [statementBehind, Token.isKeyword, Token.is]

/-- A statement. -/
theorem statement_decides : DecidesStatement (statement : Reading n Stmt) := by
  induction n with
  | zero => exact fun source => absurd source.few (Nat.not_lt_zero _)
  | succ n ih =>
    intro source
    rw [statement, statementWith]
    cases peeked : source.next? with
    | none =>
      refine Decides.refused fun stmt rest derived _ => ?_
      rw [Source.next?_none peeked] at derived
      obtain ⟨_, _, impossible, -⟩ := derived.opens
      cases impossible
    | some word =>
      have front := Source.next?_some peeked
      rw [front]
      dsimp only
      cases known : statementBehind word.value (statement : Reading n Stmt) with
      | none =>
        refine Decides.refused fun stmt rest derived _ => ?_
        exact absurd derived.opens_at (by simp [statementBehind_none known])
      | some reading =>
        exact (within_decides (statementBehind_decides ih known word.inside)).suffix
          (List.suffix_cons _ _)

end Reading

end BotScript
