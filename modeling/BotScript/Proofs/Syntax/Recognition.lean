import BotScript.Proofs.Syntax.Programs

/-! Readers recognise exactly the language. -/

namespace BotScript

namespace Grammar

variable {tokens rest behind : List Token} {e other : Expr}

/-- An expression is read where no token goes on with it. -/
theorem Term.read (derived : Term tokens e rest) (ended : Ended .or rest) :
    ∃ parsed, Reading.expression Reading.template (.all tokens) = .ok parsed ∧ parsed.value = e ∧
      parsed.rest.tokens = rest := by
  have decided := Reading.term_decides (.all tokens)
  cases result : Reading.expression Reading.template (.all tokens) with
  | error failure =>
    rw [result] at decided
    exact absurd ended (decided.1 e rest derived)
  | ok parsed =>
    rw [result] at decided
    obtain ⟨-, -, unique⟩ := decided
    obtain ⟨value, behind⟩ := Prod.mk.inj (unique e rest derived ended)
    exact ⟨parsed, rfl, value, behind⟩

/-- Where no token goes on with an expression there is one way to read it. -/
theorem Term.unique (derived : Term tokens e rest) (ended : Ended .or rest)
    (again : Term tokens other behind) (stops : Ended .or behind) : e = other ∧ rest = behind := by
  obtain ⟨parsed, read, rfl, rfl⟩ := derived.read ended
  obtain ⟨parsed', read', rfl, rfl⟩ := again.read stops
  obtain rfl := Except.ok.inj (read.symm.trans read')
  exact ⟨rfl, rfl⟩

/-- An expression of any level stands where a whole expression is wanted. -/
theorem Expression.term {template : Templates} :
    ∀ {level : Level}, Expression template level tokens e rest →
    Expression template .or tokens e rest
  | .or, derived => derived
  | .and, derived => .tighter rfl derived
  | .not, derived => .tighter rfl (.tighter rfl derived)
  | .comparison, derived => .tighter rfl (.tighter rfl (.tighter rfl derived))
  | .concat, derived => .tighter rfl (.tighter rfl (.tighter rfl (.tighter rfl derived)))
  | .coalesce, derived =>
    .tighter rfl (.tighter rfl (.tighter rfl (.tighter rfl (.tighter rfl derived))))
  | .operand, derived =>
    .tighter rfl (.tighter rfl (.tighter rfl (.tighter rfl (.tighter rfl (.tighter rfl derived)))))

/-- The tokens of a whole expression are read to their end. -/
theorem IsExpression.read (derived : IsExpression tokens e) :
    ∃ parsed, Reading.expression Reading.template (.all tokens) = .ok parsed ∧ parsed.value = e ∧
      parsed.rest.tokens = [] :=
  Term.read derived ended_nil

theorem IsExpression.parse {source : String} {finish : Position} (derived : IsExpression tokens e)
    (scanned : tokenize source = .ok ⟨tokens, finish⟩) :
    parseExpression source = .ok (e, ⟨[], finish⟩) := by
  obtain ⟨parsed, read, value, rest⟩ := derived.read
  rw [parseExpression, scanned]
  dsimp only
  rw [read]
  dsimp only
  rw [value, rest]

/-- An expression that no token goes on with is the longest one that the tokens start with. -/
theorem Term.longest (derived : Term tokens e rest) (ended : Ended .or rest)
    (again : Term tokens other behind) :
    rest <:+ behind := by
  obtain ⟨front, same, reread⟩ := derived.frame
  obtain ⟨front', same', reread'⟩ := again.frame
  by_contra shorter
  have more : behind <:+ rest := by
    refine (List.suffix_or_suffix_of_suffix ⟨front', same'.symm⟩ ⟨front,
      same.symm⟩).resolve_right shorter
  obtain ⟨middle, rfl⟩ := more
  have nonempty : middle ≠ [] := by
    rintro rfl
    exact shorter List.suffix_rfl
  have whole : front' = front ++ middle := by
    rw [same, ← List.append_assoc] at same'
    exact (List.append_cancel_right same').symm
  have stops : Ended .or middle := by
    obtain ⟨t, others, rfl⟩ := List.exists_cons_of_ne_nil nonempty
    exact ended
  have once := reread middle
  have twice := reread' []
  rw [List.append_nil, whole] at twice
  exact nonempty (Term.unique once stops twice ended_nil).2

end Grammar

namespace Reading

open Grammar

/-- A program is read exactly from the tokens that the grammar derives it from, where the link of a
`set` may be left out only before tokens that are no link. An expression is read from the longest
part in front that is one. Whatever else the tokens are, as long as their numerals are decimal there
is a complaint and nothing is read. -/
theorem recognises (tokens : List Token) :
    (∀ whole, program tokens = .ok whole ↔ IsProgram unlinked tokens whole) ∧
    (∀ parsed, expression template (.all tokens) = .ok parsed →
      ∃ front, tokens = front ++ parsed.rest.tokens ∧
      IsExpression front parsed.value ∧
      ∀ other e, other <+: tokens → IsExpression other e → other <+: front ∧
        (other = front → e = parsed.value)) ∧
    ((∀ t ∈ tokens, t.Decimal) →
      (∀ failure, program tokens = .error failure → ∃ complaint, failure = .complaint complaint) ∧
      (∀ failure, expression template (.all tokens) = .error failure →
        ∃ complaint, failure = .complaint complaint)) := by
  have program_decided := program_decides tokens
  have expression_decided := expression_decides complaining_template (.all tokens)
  refine ⟨fun whole => ?_, fun parsed read => ?_,
    fun decimal => ⟨fun failure read => ?_, fun failure read => ?_⟩⟩
  · cases read : program tokens with
    | error failure =>
      rw [read] at program_decided
      constructor
      · exact fun impossible => nomatch impossible
      · exact fun derived => absurd trivial (program_decided.1 whole [] ⟨rfl, derived⟩)
    | ok result =>
      rw [read] at program_decided
      obtain ⟨-, ⟨-, derived⟩, unique⟩ := program_decided
      constructor
      · rintro same
        obtain rfl := Except.ok.inj same
        exact derived
      · intro other
        have same := unique whole [] ⟨rfl, other⟩ trivial
        exact congrArg Except.ok (Prod.mk.inj same).1
  · rw [read] at expression_decided
    obtain ⟨-, ⟨derived, ended⟩, -⟩ := expression_decided
    obtain ⟨front, same, again⟩ := derived.frame
    have alone := again []
    rw [List.append_nil] at alone
    refine ⟨front, same, alone, fun other e part whole => ?_⟩
    obtain ⟨behind, split⟩ := part
    have further : Term tokens e behind := by
      obtain ⟨inner, together, reread⟩ := whole.frame
      rw [List.append_nil] at together
      rw [← split, together]
      exact reread behind
    obtain ⟨middle, joined⟩ := Term.longest derived ended further
    have parts : other ++ middle = front := by
      have both : other ++ middle ++ parsed.seen.2 = front ++ parsed.seen.2 := by
        rw [List.append_assoc, joined, split]
        exact same
      exact List.append_cancel_right both
    refine ⟨⟨middle, parts⟩, ?_⟩
    rintro rfl
    have nothing : middle = [] := by simpa using parts
    rw [← joined, nothing, List.nil_append] at further
    exact (Term.unique further ended derived ended).1
  · rw [read] at program_decided
    exact program_decided.2 decimal
  · rw [read] at expression_decided
    exact expression_decided.2 decimal

/-! ## A program that is read, and two that are not -/

/-- The tokens of a bot `b` with some statements that answer any input. -/
def answering (statements : List Token) : List Token :=
  [⟨.keyword, "bot", ⟨1, 1⟩⟩, ⟨.name, "b", ⟨1, 5⟩⟩, ⟨.keyword, "on", ⟨1, 7⟩⟩,
    ⟨.keyword, "input", ⟨1, 10⟩⟩] ++
    statements ++ [⟨.keyword, "end", ⟨2, 1⟩⟩, ⟨.keyword, "end", ⟨2, 5⟩⟩]

/-- The tokens of `set x to 1 say "{x}"`. -/
def setAndSay : List Token :=
  [⟨.keyword, "set", ⟨1, 16⟩⟩, ⟨.name, "x", ⟨1, 20⟩⟩, ⟨.name, "to", ⟨1, 22⟩⟩,
    ⟨.number, "1", ⟨1, 25⟩⟩, ⟨.keyword, "say", ⟨1, 27⟩⟩, ⟨.string, "\x7bx\x7d", ⟨1, 31⟩⟩]

theorem setAndSay_decimal : ∀ t ∈ answering setAndSay, t.Decimal := by
  have digit : Number.Digits ['1'] :=
    ⟨List.cons_ne_nil _ _, List.forall_mem_singleton.mpr (by decide)⟩
  have one : Token.Decimal ⟨.number, "1", ⟨1, 25⟩⟩ :=
    .number rfl (.integer (.inl rfl) digit (by decide))
  have hole : Token.Decimal ⟨.string, "\x7bx\x7d", ⟨1, 31⟩⟩ := by
    refine .string (by decide) fun chars stream part scanned inner member => ?_
    have parts : (Template.cut "\x7bx\x7d".toList).parts = [.hole ['x']] := by decide +kernel
    have tokens : Lexer.scan .start ['x'] = .ok ⟨[⟨.name, "x", .start⟩], ⟨1, 2⟩⟩ := by
      decide +kernel
    rw [parts, List.mem_singleton] at part
    obtain rfl := Template.Part.hole.inj part
    obtain rfl := Except.ok.inj (tokens.symm.trans scanned)
    rw [List.mem_singleton] at member
    exact member ▸ .other (by decide) (by decide)
  simp only [answering, setAndSay, List.cons_append, List.nil_append, List.mem_cons,
    List.not_mem_nil, or_false]
  rintro t (rfl | rfl | rfl | rfl | rfl | rfl | rfl | rfl | rfl | rfl | rfl | rfl)
  case inr.inr.inr.inr.inr.inr.inr.inl => exact one
  case inr.inr.inr.inr.inr.inr.inr.inr.inr.inl => exact hole
  all_goals exact .other (by decide) (by decide)

theorem setAndSay_recognised :
    (∀ t ∈ answering setAndSay, t.Decimal) ∧
      (∃ whole, IsProgram unlinked (answering setAndSay) whole) ∧
      ∀ failure, expression template (.all (answering setAndSay)) = .error failure →
        ∃ complaint, failure = .complaint complaint := by
  obtain ⟨programs, -, complaints⟩ := recognises (answering setAndSay)
  refine ⟨setAndSay_decimal, ?_, (complaints setAndSay_decimal).2⟩
  have read : (program (answering setAndSay)).toOption.isSome := by decide +kernel
  cases result : program (answering setAndSay) with
  | ok whole => exact ⟨whole, (programs whole).mp result⟩
  | error failure => simp [result, Except.toOption] at read

variable {n : Nat} {word t : Token} {rest : List Token} {failure : Failure}

theorem operand_numeral (digits : t.kind = .number) (wrong : numberOf t = .error failure)
    (nested : Reading n Expr) (few) :
    operand template nested ⟨t :: rest, few⟩ = .error failure := by
  simp [operand, Source.next?, digits, Token.isString, wrong, bind, Except.bind]

/-- What is wrong with a numeral is wrong with the expression that starts with it. -/
theorem expression_numeral (digits : t.kind = .number) (wrong : numberOf t = .error failure) (few) :
    (expression template : Reading n Expr) ⟨t :: rest, few⟩ = .error failure := by
  cases n with
  | zero => exact absurd few (Nat.not_lt_zero _)
  | succ n =>
    simp [expression, expressionWith, joined, chain.eq_def, negated.eq_def, comparison,
      operand_numeral digits wrong, bind, Except.bind, Source.next?, digits,
      Token.isKeyword, Token.is]

theorem block_numeral (opens : word.isKeyword "say") (digits : t.kind = .number)
    (wrong : numberOf t = .error failure) (owner : BlockOwner) (few) :
    block owner (statement : Reading n Stmt) ⟨word :: t :: rest, few⟩ = .error failure := by
  have first : (statement : Reading n Stmt) ⟨word :: t :: rest, few⟩ = .error failure := by
    cases n with
    | zero => exact absurd few (Nat.not_lt_zero _)
    | succ n =>
      simp [statement, statementWith, statementBehind, opens, Source.next?, say, Reading.map,
        Parsed.within, Parsed.inside, expression_numeral digits wrong, bind, Except.bind]
  rw [block]
  simp [Source.next?, BlockOwner.isClosedBy, not_keyword_of_keyword opens, first, bind, Except.bind]

/-- What is wrong with a numeral is wrong with the program that says it. -/
theorem program_numeral (digits : t.kind = .number) (wrong : numberOf t = .error failure) :
    program (answering [⟨.keyword, "say", ⟨1, 16⟩⟩, t]) = .error failure := by
  have opens : (⟨.keyword, "say", ⟨1, 16⟩⟩ : Token).isKeyword "say" := by decide
  rw [program, bots]
  simp [answering, Source.next?, Source.all, botKind?, bot, andThen, token, bind, Except.bind,
    Token.isKeyword, Token.is]
  rw [declarations]
  simp [Source.next?, declarationProblem?, declaration, handler, token, isEvent, guard,
    Trailing.absent, body, block_numeral opens digits wrong, bind, Except.bind,
    Token.isKeyword, Token.is]

/-- Too many digits are no number. -/
theorem numberOf_of_many (whole : Number.Digits t.text.toList)
    (many : Number.digitLimit < t.text.toList.length) :
    ∃ numeral, numberOf t = .error (.numeral numeral) := by
  have plain := Number.not_dotted_of_digits (.inl rfl) whole
  have read := Number.readInt_of_many (.inl rfl) whole many
  rw [List.nil_append] at plain read
  refine ⟨.ofFlaw t.text (.tooLong t.text.toList.length), ?_⟩
  rw [numberOf, Token.isDotted, plain]
  simp [read]

/-- The tokens of `set x to`. -/
def setTo : List Token :=
  [⟨.keyword, "set", ⟨1, 16⟩⟩, ⟨.name, "x", ⟨1, 20⟩⟩, ⟨.name, "to", ⟨1, 22⟩⟩]

theorem setTo_decimal : ∀ t ∈ answering setTo, t.Decimal := by
  have kinds : ∀ t ∈ answering setTo, t.kind ≠ .number ∧ t.isString = false := by decide
  exact fun t member => .other (kinds t member).1 (kinds t member).2

/-- A numeral of one more digit than is converted. -/
def longNumeral : Token :=
  ⟨.number, String.ofList (List.replicate (Number.digitLimit + 1) '1'), ⟨1, 20⟩⟩

theorem longNumeral_text : longNumeral.text.toList = List.replicate (Number.digitLimit + 1) '1' :=
  String.toList_ofList

theorem longNumeral_digits : Number.Digits longNumeral.text.toList := by
  rw [longNumeral_text]
  refine ⟨List.cons_ne_nil _ _, fun c member => ?_⟩
  obtain rfl := List.eq_of_mem_replicate member
  decide

theorem longNumeral_many : Number.digitLimit < longNumeral.text.toList.length := by
  rw [longNumeral_text, List.length_replicate]
  exact Nat.lt_succ_self _

theorem setTo_derived : IsProgram optional (answering setTo) ⟨[botOf .bot "b" ⟨1, 1⟩ []
    [⟨"input", none, [.set "x" (.reference "to" ⟨1, 22⟩) ⟨1, 16⟩], ⟨1, 7⟩⟩]]⟩ := by
  have value (rest : List Token) :
      Term (⟨.name, "to", ⟨1, 22⟩⟩ :: rest) (.reference "to" ⟨1, 22⟩) rest := by
    have operand : Grammar.Expression template .operand (⟨.name, "to", ⟨1, 22⟩⟩ :: rest)
      (.reference "to" ⟨1, 22⟩) rest :=
      .reference (by decide) (by decide)
    exact .tighter rfl (.tighter rfl
      (.tighter rfl (.tighter rfl (.tighter rfl (.tighter rfl operand)))))
  have statement : Statement optional
      (setTo ++ [⟨.keyword, "end", ⟨2, 1⟩⟩, ⟨.keyword, "end", ⟨2, 5⟩⟩])
      (.set "x" (.reference "to" ⟨1, 22⟩) ⟨1, 16⟩)
      [⟨.keyword, "end", ⟨2, 1⟩⟩, ⟨.keyword, "end", ⟨2, 5⟩⟩] :=
    .set (by decide) (by decide) (.absent rfl) (value _)
  have handler : Handling optional (⟨.keyword, "on", ⟨1, 7⟩⟩ :: ⟨.keyword, "input", ⟨1, 10⟩⟩ ::
        (setTo ++ [⟨.keyword, "end", ⟨2, 1⟩⟩, ⟨.keyword, "end", ⟨2, 5⟩⟩]))
      ⟨"input", none, [.set "x" (.reference "to" ⟨1, 22⟩) ⟨1, 16⟩], ⟨1, 7⟩⟩
      [⟨.keyword, "end", ⟨2, 5⟩⟩] :=
    .on (by decide) (by decide) (.absent _) (.more statement (.none _)) (by decide)
  have bots : Bots optional (answering setTo) [botOf .bot "b" ⟨1, 1⟩ []
      [⟨"input", none, [.set "x" (.reference "to" ⟨1, 22⟩) ⟨1, 16⟩], ⟨1, 7⟩⟩]] :=
    .more (by decide) (by decide) (.none _) (by decide) (.more handler (.none _))
    (List.cons_ne_nil _ _) (by decide) .none
  exact ⟨bots, List.cons_ne_nil _ _, by simp⟩

/-- Where the link of a `set` may be left out anywhere, the grammar derives a program that there is
a complaint about; and a program with a decimal numeral may be no program without a complaint about
it. -/
theorem not_recognised :
    (∃ whole, IsProgram optional (answering setTo) whole ∧
      ∃ complaint, program (answering setTo) = .error (.complaint complaint)) ∧
    ((∀ c ∈ longNumeral.text.toList, Number.isDecimal c) ∧
      ∃ numeral, program (answering [⟨.keyword, "say", ⟨1, 16⟩⟩, longNumeral]) =
        .error (.numeral numeral)) := by
  refine ⟨⟨_, setTo_derived, ?_⟩, longNumeral_digits.decimal, ?_⟩
  · have refused : ((program (answering setTo)).toOption.isSome) = false := by decide +kernel
    have decided := program_decides (answering setTo)
    cases result : program (answering setTo) with
    | ok whole => simp [result, Except.toOption] at refused
    | error failure =>
      rw [result] at decided
      obtain ⟨complaint, rfl⟩ := decided.2 setTo_decimal
      exact ⟨complaint, rfl⟩
  · obtain ⟨numeral, wrong⟩ := numberOf_of_many longNumeral_digits longNumeral_many
    exact ⟨numeral, program_numeral rfl wrong⟩

end Reading

end BotScript
