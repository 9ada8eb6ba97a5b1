import BotScript.Proofs.Syntax.Blame
import BotScript.Proofs.Syntax.Positions

/-! Whatever is wrong with a program text is wrong at a place in it. Statements and declarations
blame one of their tokens, as expressions do; a token stands where it starts in the text. -/

namespace BotScript

namespace Reading

variable {n : Nat} {source : Source n}

/-! ## Statements -/

theorem bindingName_bounded (site : BindingSite) (source : Source n) :
    Bounded Parsed.left source.tokens (bindingName site source) := by
  refine (token_bounded _ _ source).bind_at fun name part => ?_
  split
  · exact complain_bounded _ source
  · exact .done part

theorem bindingAfterAs_bounded (site : BindingSite) (source : Source n) :
    Bounded Trailing.left source.tokens (bindingAfterAs site source) := by
  unfold bindingAfterAs
  split
  · exact .done List.suffix_rfl
  · rename_i word peeked
    split
    · refine Bounded.suffix ?_ (next?_left peeked).2
      exact (bindingName_bounded site word.rest).bind fun name => .done (List.suffix_refl name.left)
    · exact .done List.suffix_rfl

/-- A reading never leaves its tokens, wherever it starts. -/
abbrev Inside {α : Type} (reading : Reading n α) : Prop :=
  ∀ source, Bounded Parsed.left source.tokens (reading source)

theorem block_bounded (owner : BlockOwner) {statement : Reading n Stmt}
    (inside : Inside statement) :
    Inside (block owner statement) := by
  intro source
  rw [block]
  split
  · exact want_bounded _ source
  · rename_i next peeked
    split
    · exact (next?_left peeked).2
    · refine (inside source).bind fun first => ?_
      have shorter : first.rest.tokens.length < source.tokens.length := first.shorter
      refine (block_bounded owner inside first.rest).bind fun others => ?_
      exact .done (List.suffix_refl others.left)
termination_by source => source.tokens.length

theorem bareOptions_bounded (before : List (String × Expr)) (source : Source n) :
    Bounded Parsed.left source.tokens (bareOptions before source) := by
  rw [bareOptions]
  refine (token_bounded _ _ source).bind fun key => ?_
  refine (token_bounded _ _ key.rest).bind fun colon => ?_
  refine (expression_bounded colon.rest).bind fun value => ?_
  dsimp only
  split
  · exact .done (List.suffix_refl value.left)
  · rename_i comma peeked
    split
    · have shorter : comma.rest.tokens.length < source.tokens.length :=
        (key.andThen (colon.andThen (value.andThen comma))).shorter
      refine Bounded.suffix ?_ (next?_left peeked).2
      refine (bareOptions_bounded _ comma.rest).bind fun all => ?_
      exact .done (List.suffix_refl all.left)
    · exact .done (List.suffix_refl value.left)
termination_by source.tokens.length

theorem entries_bounded (source : Source n) :
    Bounded Parsed.left source.tokens (entries (expression template) source) := by
  refine (token_bounded _ _ source).bind fun opening => ?_
  have values : Alongside opening.left (expression template : Reading n Expr)
    (expression template) :=
    fun source _ => .refl (expression_bounded source)
  refine (entriesAfter_agree values [] opening.rest List.suffix_rfl).2.bind fun all => ?_
  exact .done (List.suffix_refl all.left)

theorem options_bounded (source : Source n) :
    Bounded Trailing.left source.tokens (options source) := by
  unfold options
  split
  · exact .done List.suffix_rfl
  · rename_i word peeked
    split
    · refine Bounded.suffix ?_ (next?_left peeked).2
      split
      · exact (entries_bounded word.rest).bind fun all => .done (List.suffix_refl all.left)
      · exact (bareOptions_bounded [] word.rest).bind fun all => .done (List.suffix_refl all.left)
    · exact .done List.suffix_rfl

variable (p : Position)

theorem say_bounded : Inside (say p : Reading n Stmt) :=
  fun source => map_bounded (expression_bounded source)

theorem ask_bounded : Inside (ask p : Reading n Stmt) := by
  intro source
  refine (token_bounded _ _ source).bind fun word => ?_
  refine (expression_bounded word.rest).bind fun prompt => ?_
  refine (options_bounded prompt.rest).bind fun all => ?_
  exact .done (List.suffix_refl all.left)

theorem set_bounded : Inside (set p : Reading n Stmt) := by
  intro source
  refine (bindingName_bounded .set source).bind fun name => ?_
  refine Bounded.suffix ?_ (skip_left (fun t => isOperator "=" t || t.is .name "to") name.rest)
  refine (expression_bounded _).bind fun value => ?_
  exact .done (List.suffix_refl value.left)

theorem call_bounded : Inside (call p : Reading n Stmt) := by
  intro source
  refine (token_bounded _ _ source).bind fun tool => ?_
  refine (token_bounded _ _ tool.rest).bind fun link => ?_
  refine (entries_bounded link.rest).bind fun args => ?_
  refine (bindingAfterAs_bounded .callResult args.rest).bind fun name => ?_
  exact .done (List.suffix_refl name.left)

theorem remember_bounded : Inside (remember p : Reading n Stmt) := by
  intro source
  refine (expression_bounded source).bind fun key => ?_
  refine (token_bounded _ _ key.rest).bind fun link => ?_
  refine (expression_bounded link.rest).bind fun value => ?_
  exact .done (List.suffix_refl value.left)

theorem recollect_bounded : Inside (recollect p : Reading n Stmt) := by
  intro source
  refine (expression_bounded source).bind fun key => ?_
  refine (bindingAfterAs_bounded .recallResult key.rest).bind fun name => ?_
  exact .done (List.suffix_refl name.left)

variable {nested : Reading n Stmt} (inside : Inside nested)

include inside

theorem branch_bounded : Inside (branch nested p) := by
  intro source
  refine (expression_bounded source).bind fun condition => ?_
  refine (block_bounded .ifBody inside condition.rest).bind fun thenBody => ?_
  split
  · refine (block_bounded .elseBody inside thenBody.rest).bind fun elseBody => ?_
    exact .done (List.suffix_refl elseBody.left)
  · exact .done (List.suffix_refl thenBody.left)

theorem loop_bounded : Inside (loop nested p) := by
  intro source
  refine (bindingName_bounded .loop source).bind fun item => ?_
  refine (token_bounded _ _ item.rest).bind fun link => ?_
  refine (map_bounded (token_bounded _ _ link.rest)).bind fun collection => ?_
  refine (block_bounded .loopBody inside collection.rest).bind fun body => ?_
  exact .done (List.suffix_refl body.left)

theorem statementBehind_bounded {word : Token} {statement : Reading n Stmt}
    (found : statementBehind word nested = some statement) : Inside statement := by
  unfold statementBehind at found
  repeat' split at found
  all_goals cases found
  · exact say_bounded _
  · exact ask_bounded _
  · exact set_bounded _
  · exact call_bounded _
  · exact branch_bounded _ inside
  · exact loop_bounded _ inside
  · exact remember_bounded _
  · exact recollect_bounded _

omit inside

theorem statement_bounded : Inside (statement : Reading n Stmt) := by
  induction n with
  | zero => exact fun source => absurd source.few (Nat.not_lt_zero _)
  | succ n ih =>
    intro source
    unfold statement statementWith
    split
    · exact want_bounded _ source
    · rename_i word peeked
      split
      · exact want_bounded _ source
      · rename_i reading found
        exact within_bounded peeked (statementBehind_bounded ih found word.inside)

/-! ## Declarations -/

theorem typeName_left (source : Source n) : (typeName source).left <:+ source.tokens := by
  unfold typeName
  split
  · exact List.suffix_rfl
  · rename_i name peeked
    split
    · exact (next?_left peeked).2
    · exact List.suffix_rfl

theorem memoryVariable_bounded : Inside (memoryVariable p : Reading n MemoryVariable) := by
  intro source
  refine (bindingName_bounded .memoryBlock source).bind fun name => ?_
  have colon := skip_left (·.kind = .colon) name.rest
  exact .done ((typeName_left _).trans colon)

theorem memoryVariables_bounded (before : List MemoryVariable) (source : Source n) :
    Bounded Parsed.left source.tokens (memoryVariables before source) := by
  rw [memoryVariables]
  split
  · exact want_bounded _ source
  · rename_i word peeked
    have behind : word.left <:+ source.tokens := (next?_left peeked).2
    split
    · exact behind
    split
    · refine ((memoryVariable_bounded word.value.position word.rest).suffix behind).bind_at
        fun next part => ?_
      split
      · exact complain_bounded _ source
      · have shorter : next.rest.tokens.length < source.tokens.length := (word.andThen next).shorter
        refine Bounded.suffix ?_ part
        refine (memoryVariables_bounded _ next.rest).bind fun all => ?_
        exact .done (List.suffix_refl all.left)
    · exact want_bounded _ source
termination_by source.tokens.length

theorem memoryBlock_bounded : Inside (memoryBlock p : Reading n MemoryBlock) := by
  intro source
  unfold memoryBlock
  split
  · exact want_bounded _ source
  · rename_i word peeked
    split
    · exact want_bounded _ source
    · refine Bounded.suffix ?_ (next?_left peeked).2
      exact (memoryVariables_bounded [] word.rest).bind fun all => .done (List.suffix_refl all.left)

theorem toolNames_bounded (source : Source n) :
    Bounded Parsed.left source.tokens (toolNames source) := by
  rw [toolNames]
  refine (token_bounded _ _ source).bind fun first => ?_
  split
  · exact .done (List.suffix_refl first.left)
  · rename_i comma peeked
    split
    · have shorter : comma.rest.tokens.length < source.tokens.length :=
        (first.andThen comma).shorter
      refine Bounded.suffix ?_ (next?_left peeked).2
      exact (toolNames_bounded comma.rest).bind fun others => .done (List.suffix_refl others.left)
    · exact .done (List.suffix_refl first.left)
termination_by source.tokens.length

theorem tools_bounded : Inside (tools : Reading n (List String)) := by
  intro source
  unfold tools
  split
  · exact want_bounded _ source
  · rename_i opening peeked
    split
    · exact toolNames_bounded source
    · refine Bounded.suffix ?_ (next?_left peeked).2
      refine (toolNames_bounded opening.rest).bind fun names => ?_
      exact (token_bounded _ _ names.rest).bind fun closing => .done (List.suffix_refl closing.left)

theorem guard_bounded (source : Source n) : Bounded Trailing.left source.tokens (guard source) := by
  unfold guard
  split
  · exact .done List.suffix_rfl
  · rename_i word peeked
    split
    · refine Bounded.suffix ?_ (next?_left peeked).2
      exact (expression_bounded word.rest).bind fun inner => .done (List.suffix_refl inner.left)
    · exact .done List.suffix_rfl

theorem handler_bounded : Inside (handler p : Reading n Handler) := by
  intro source
  refine (token_bounded _ _ source).bind fun event => ?_
  refine (guard_bounded event.rest).bind fun condition => ?_
  refine (block_bounded (.handler event.value.text) statement_bounded condition.rest).bind
    fun statements => ?_
  exact .done (List.suffix_refl statements.left)

theorem declaration_bounded (bot : Bot) (word : Token) :
    Inside (declaration bot word : Reading n Bot) := by
  intro source
  unfold declaration
  split
  · exact (handler_bounded word.position source).bind fun next => .done (List.suffix_refl next.left)
  split
  · exact (token_bounded _ _ source).bind fun next => .done (List.suffix_refl next.left)
  split
  · exact (memoryBlock_bounded word.position source).bind fun next =>
      .done (List.suffix_refl next.left)
  · exact (tools_bounded source).bind fun next => .done (List.suffix_refl next.left)

/-- A bot without handlers is blamed on its name. -/
theorem declarations_bounded {tokens : List Token} {name : Token} (named : name ∈ tokens)
    (bot : Bot) (source : Source n) (part : source.tokens <:+ tokens) :
    Bounded Parsed.left tokens (declarations bot name source) := by
  rw [declarations]
  split
  · exact (want_bounded _ source).suffix part
  · rename_i word peeked
    have behind : word.left <:+ tokens := (next?_left peeked).2.trans part
    split
    · split
      · intro t blamed
        exact Option.some.inj blamed ▸ named
      · exact behind
    split
    · exact (complain_bounded _ source).suffix part
    · refine ((declaration_bounded bot word.value word.rest).suffix behind).bind_at
        fun next first => ?_
      have shorter : next.rest.tokens.length < source.tokens.length := (word.andThen next).shorter
      refine (declarations_bounded named next.value next.rest first).bind fun all => ?_
      exact .done (List.suffix_refl all.left)
termination_by source.tokens.length

theorem bot_bounded (kind : BotKind) : Inside (bot kind p : Reading n Bot) := by
  intro source
  unfold bot Reading.andThen token
  cases peeked : source.next? with
  | none => exact want_bounded _ source
  | some name =>
    obtain ⟨member, behind⟩ := next?_left peeked
    dsimp only
    by_cases named : name.value.kind = .name || name.value.kind = .string
    · rw [if_pos named]
      refine (declarations_bounded member _ name.rest behind).bind fun all => ?_
      exact .done (List.suffix_refl all.left)
    · rw [if_neg named]
      exact want_bounded _ source

theorem bots_bounded (before : List Bot) (source : Source n) :
    Bounded nothing source.tokens (bots before source) := by
  rw [bots]
  split
  · split
    · exact want_bounded _ source
    · exact .done List.nil_suffix
  · rename_i word peeked
    have behind : word.left <:+ source.tokens := (next?_left peeked).2
    split
    · exact want_bounded _ source
    · rename_i kind _
      refine ((bot_bounded word.value.position kind word.rest).suffix behind).bind_at
        fun next first => ?_
      split
      · exact complain_bounded _ source
      · have shorter : next.rest.tokens.length < source.tokens.length := (word.andThen next).shorter
        exact (bots_bounded _ next.rest).suffix first
termination_by source.tokens.length

/-- Whatever is wrong with the tokens of a program is wrong within them. -/
theorem program_bounded (tokens : List Token) : Bounded nothing tokens (program tokens) :=
  (bots_bounded [] (.all tokens)).bind fun _ => .done List.nil_suffix

end Reading

end BotScript
