import BotScript.Proofs.Syntax.Decides
import BotScript.Proofs.Syntax.Derivations

/-! Reading expressions decides their grammar. The levels are taken one by one, from the tightest to
the loosest; each reading of a level stops exactly where no token goes on with an expression of that
level. -/

namespace BotScript

namespace Reading

open Grammar

variable {n : Nat} {template : Templates} {level next : Level} {joint : Joint}

/-- A reading reads the expressions of a level, up to a token that does not go on with them. -/
def DecidesLevel (template : Templates) (level : Level) (reading : Reading n Expr) : Prop :=
  ∀ source : Source n, Decides Parsed.seen source.tokens anywhere
    (fun e rest => Grammar.Expression template level source.tokens e rest ∧ Ended level rest)
    (reading source)

/-- Parts of a level with their operators between them. -/
theorem chain_decides (binds : level.tighter? = some next) (links : level.joint? = some joint)
    {part : Reading n Expr} (decided : DecidesLevel template next part) (source : Source n) :
    Decides Parsed.seen source.tokens anywhere
      (fun parts rest => Parts template next joint source.tokens parts rest ∧ Ended level rest)
      (chain joint.joins part source) := by
  rw [chain]
  refine ((decided source).next (fun e middle => Peeks (fun t => joint.joins t)
    (fun parts rest => parts = [e] ∧ rest = middle)
    (fun _ behind parts rest => ∃ es,
      (Parts template next joint behind es rest ∧ Ended level rest) ∧ parts = e :: es)
    middle) ?_).congr ?_
  · intro first _
    cases peeked : first.rest.next? with
    | none => exact Decides.peek_none peeked (.parsed (first.map fun e => [e]) List.suffix_rfl)
    | some link =>
      refine Decides.peek_some peeked (fun _ => ?_)
        (.parsed (first.map fun e => [e]) List.suffix_rfl)
      have shorter : link.rest.tokens.length < source.tokens.length := (first.andThen link).shorter
      exact (chain_decides binds links decided link.rest).map fun _ => rfl
  · intro parts rest
    constructor
    · rintro ⟨e, middle, ⟨first, ended⟩,
        ⟨other, rfl, rfl⟩ | ⟨link, behind, rfl, joins, es, ⟨others, stops⟩, rfl⟩⟩
      · exact ⟨.last first, (ended_of_joint binds links).mpr ⟨ended, other⟩⟩
      · exact ⟨.more first joins others, stops⟩
    · rintro ⟨derived, stops⟩
      cases derived with
      | last only =>
        obtain ⟨ended, other⟩ := (ended_of_joint binds links).mp stops
        exact ⟨_, _, ⟨only, ended⟩, .inl ⟨other, rfl, rfl⟩⟩
      | more first joins others =>
        exact ⟨_, _, ⟨first, ended_cons.mpr (not_continues_of_joins binds links joins)⟩,
          .inr ⟨_, _, rfl, joins, _, ⟨others, stops⟩, rfl⟩⟩
termination_by source.tokens.length

theorem joined_decides (binds : level.tighter? = some next) (links : level.joint? = some joint)
    {part : Reading n Expr} (decided : DecidesLevel template next part) :
    DecidesLevel template level (joined joint.join joint.joins part) := by
  intro source
  refine ((chain_decides binds links decided source).map (f := joinedParts joint source.position)
    fun _ => rfl).congr
    fun e rest => ?_
  rw [Grammar.Expression.joined_iff binds links]
  constructor
  · rintro ⟨parts, ⟨all, ended⟩, rfl⟩
    exact ⟨⟨parts, all, rfl⟩, ended⟩
  · rintro ⟨⟨parts, all, rfl⟩, ended⟩
    exact ⟨parts, ⟨all, ended⟩, rfl⟩

theorem ended_comparison {rest : List Token} :
    Ended .comparison rest ↔ Ended .concat rest ∧ ∀ t ∈ rest.head?, ¬ isComparison t := by
  simp only [Ended, Level.continues, Bool.or_eq_false_iff, Bool.not_eq_true]
  exact ⟨fun both => ⟨fun t first => ⟨(both t first).1.2, (both t first).2⟩,
    fun t first => (both t first).1.1⟩,
    fun both t first => ⟨⟨both.2 t first, (both.1 t first).1⟩, (both.1 t first).2⟩⟩

theorem not_continues_of_comparison {t : Token} (compares : isComparison t) :
    Level.concat.continues t = false := by
  simp only [isComparison, isOperator, Token.isKeyword, Token.is, Bool.or_eq_true, Bool.and_eq_true,
    decide_eq_true_eq] at compares
  rcases compares with (⟨-, text⟩ | ⟨-, text⟩) | ⟨kind, -⟩
  · simp [Level.continues, isOperator, Token.is, text]
  · simp [Level.continues, isOperator, Token.is, text]
  · simp [Level.continues, isOperator, Token.is, kind]

/-- A comparison of two parts, or one part. A second comparison is refused. -/
theorem comparison_decides {part : Reading n Expr} (decided : DecidesLevel template .concat part) :
    DecidesLevel template .comparison (comparison part) := by
  intro source
  refine ((decided source).next (fun left middle => Peeks (fun t => isComparison t)
    (fun e rest => e = left ∧ rest = middle)
    (fun sign behind e rest =>
      ∃ right final,
        (Grammar.Expression template .concat behind right final ∧ Ended .concat final) ∧
        (∀ t ∈ final.head?, ¬ isComparison t) ∧
        e = compare sign left right (positionOf source.tokens) ∧
        rest = final)
    middle) ?_).congr ?_
  · intro left _
    cases peeked : left.rest.next? with
    | none => exact Decides.peek_none peeked (.parsed left List.suffix_rfl)
    | some sign =>
      refine Decides.peek_some peeked (fun _ => (decided sign.rest).next _ ?_)
        (.parsed left List.suffix_rfl)
      intro right _
      split
      · rename_i again
        refine Decides.refused ?_
        rintro e rest ⟨other, -⟩
        obtain ⟨t, first, compares⟩ := (Option.any_eq_true ..).mp again
        exact absurd compares (other t first)
      · rename_i other
        refine (Decides.parsed ((left.andThen (sign.andThen right)).map fun value =>
          compare sign.value left.value value source.position) List.suffix_rfl).congr
          fun e rest => ?_
        constructor
        · rintro ⟨rfl, rfl⟩
          exact ⟨fun t first compares =>
            other ((Option.any_eq_true ..).mpr ⟨t, first, compares⟩), rfl, rfl⟩
        · rintro ⟨-, rfl, rfl⟩
          exact ⟨rfl, rfl⟩
  · intro e rest
    rw [Grammar.Expression.comparison_iff]
    constructor
    · rintro ⟨left, middle, ⟨first, ended⟩, ⟨other, rfl, rfl⟩ |
        ⟨sign, behind, rfl, compares, right, final, ⟨second, stops⟩, other, rfl, rfl⟩⟩
      · exact ⟨.inl first, ended_comparison.mpr ⟨ended, other⟩⟩
      · exact ⟨.inr ⟨_, _, _, _, first, compares, second, rfl⟩, ended_comparison.mpr ⟨stops, other⟩⟩
    · rintro ⟨first | ⟨left, sign, behind, right, first, compares, second, rfl⟩, stops⟩
      · obtain ⟨ended, other⟩ := ended_comparison.mp stops
        exact ⟨_, _, ⟨first, ended⟩, .inl ⟨other, rfl, rfl⟩⟩
      · obtain ⟨ended, other⟩ := ended_comparison.mp stops
        exact ⟨_, _, ⟨first, ended_cons.mpr (not_continues_of_comparison compares)⟩,
          .inr ⟨_, _, rfl, compares, _, _, ⟨second, ended⟩, other, rfl, rfl⟩⟩

theorem negated_decides_at {part : Reading n Expr}
    (decided : DecidesLevel template .comparison part) (source : Source n) :
    Decides Parsed.seen source.tokens anywhere
      (fun e rest => Grammar.Expression template .not source.tokens e rest ∧ Ended .not rest)
      (negated part source) := by
  rw [negated]
  cases peeked : source.next? with
  | none =>
    refine (decided source).congr fun e rest => ?_
    simp [Source.next?_none peeked, Grammar.Expression.not_nil]
  | some word =>
    have front := Source.next?_some peeked
    dsimp only
    split
    · rename_i negates
      have shorter : word.rest.tokens.length < source.tokens.length := word.shorter
      refine (((negated_decides_at decided word.rest).map (f := (.negation · word.value.position))
        fun _ => rfl).suffix
        (front ▸ List.suffix_cons _ _)).congr fun e rest => ?_
      rw [Grammar.Expression.negation_iff, front]
      constructor
      · rintro ⟨inner, ⟨derived, ended⟩, rfl⟩
        exact ⟨.inr ⟨_, _, inner, rfl, negates, derived, rfl⟩, ended⟩
      · rintro ⟨derived | ⟨_, _, inner, same, -, derived, rfl⟩, ended⟩
        · exact absurd derived (Grammar.Expression.not_after_negation negates)
        · obtain ⟨rfl, rfl⟩ := List.cons.inj same
          exact ⟨inner, ⟨derived, ended⟩, rfl⟩
    · rename_i plain
      refine (decided source).congr fun e rest => ?_
      rw [Grammar.Expression.negation_iff]
      constructor
      · rintro ⟨derived, ended⟩
        exact ⟨.inl derived, ended⟩
      · rintro ⟨derived | ⟨_, _, inner, same, negates, -⟩, ended⟩
        · exact ⟨derived, ended⟩
        · obtain ⟨rfl, -⟩ := List.cons.inj (front.symm.trans same)
          exact absurd negates plain
termination_by source.tokens.length

/-- Negations in front of a comparison. -/
theorem negated_decides {part : Reading n Expr} (decided : DecidesLevel template .comparison part) :
    DecidesLevel template .not (negated part) :=
  negated_decides_at decided

/-- A member of a list or an object: an expression with a comma behind it, and what comes next then,
or with the closing token. -/
def Member {δ : Type} (template : Templates) (closing : TokenKind)
    (others ends : Expr → List Token → δ → List Token → Prop) (tokens : List Token) (d : δ)
    (rest : List Token) : Prop :=
  ∃ e stop behind, Grammar.Expression template .or tokens e (stop :: behind) ∧
    ((stop.kind = .comma ∧ others e behind d rest) ∨ (stop.kind = closing ∧ ends e behind d rest))

/-- A member is read up to the token behind it, and which one that is decides how to go on. -/
theorem member_decides {γ δ : Type} {nested : Reading n Expr}
    (decided : DecidesLevel template .or nested) {closing : TokenKind}
    (closes : closing = .rightBracket ∨ closing = .rightBrace) (text : String) (source : Source n)
    {last : γ → δ × List Token}
    {next : (first : Parsed Expr source) → Parsed Bool first.rest → Except Failure γ}
    (others ends : Expr → List Token → δ → List Token → Prop)
    (goesOn : ∀ (first : Parsed Expr source) (stop : Parsed Bool first.rest), stop.value = true →
      Decides last stop.rest.tokens anywhere (others first.value stop.rest.tokens)
        (next first stop))
    (stops : ∀ (first : Parsed Expr source) (stop : Parsed Bool first.rest), stop.value = false →
      Decides last stop.rest.tokens anywhere (ends first.value stop.rest.tokens)
        (next first stop)) :
    Decides last source.tokens anywhere (Member template closing others ends source.tokens)
      (do
        let first ← nested source
        let stop ← separator closing text first.rest
        next first stop) := by
  have uncommaed : closing ≠ .comma := by rcases closes with rfl | rfl <;> decide
  refine ((decided source).next (fun e middle d rest => ∃ more behind,
    (∃ t, middle = t :: behind ∧ ((more = true ∧ t.kind = .comma) ∨
      (more = false ∧ t.kind = closing))) ∧
      ((more = true ∧ others e behind d rest) ∨ (more = false ∧ ends e behind d rest))) ?_).congr ?_
  · intro first _
    refine (separator_decides closing text first.rest uncommaed).next _ fun stop _ => ?_
    cases more : stop.value with
    | true => exact (goesOn first stop more).congr fun d rest => by simp
    | false => exact (stops first stop more).congr fun d rest => by simp
  · -- neither a comma nor a closing token goes on with the expression
    have unjoined : ∀ {t : Token}, t.kind = .comma ∨ t.kind = closing →
        ∀ {behind}, Ended .or (t :: behind) := by
      intro t kind behind
      refine ended_cons.mpr (not_continues_of_kind ?_ ?_) <;> rcases closes with rfl | rfl <;>
        rcases kind with same | same <;>
        simp [same]
    intro d rest
    constructor
    · rintro ⟨e, _, ⟨derived, -⟩, _, behind, ⟨stop, rfl, ⟨rfl, comma⟩ | ⟨rfl, closed⟩⟩,
        ⟨more, further⟩ | ⟨more, further⟩⟩
      · exact ⟨e, stop, behind, derived, .inl ⟨comma, further⟩⟩
      · cases more
      · cases more
      · exact ⟨e, stop, behind, derived, .inr ⟨closed, further⟩⟩
    · rintro ⟨e, stop, behind, derived, ⟨comma, further⟩ | ⟨closed, further⟩⟩
      · exact ⟨e, _, ⟨derived, unjoined (.inl comma)⟩, true, behind, ⟨stop, rfl, .inl ⟨rfl, comma⟩⟩,
          .inl ⟨rfl, further⟩⟩
      · exact ⟨e, _, ⟨derived, unjoined (.inr closed)⟩, false, behind,
          ⟨stop, rfl, .inr ⟨rfl, closed⟩⟩, .inr ⟨rfl, further⟩⟩

/-- The rest of a list. -/
theorem items_decides {nested : Reading n Expr} (decided : DecidesLevel template .or nested)
    (source : Source n) :
    Decides Parsed.seen source.tokens anywhere (Items template source.tokens)
      (items nested source) := by
  rw [items]
  cases peeked : source.next? with
  | none =>
    refine Decides.refused fun es rest derived => ?_
    rw [Source.next?_none peeked, Items.iff] at derived
    obtain ⟨_, impossible, -⟩ | ⟨_, _, _, impossible, -⟩ := derived
    · cases impossible
    · exact absurd impossible Grammar.Expression.not_nil
  | some next =>
    have front := Source.next?_some peeked
    dsimp only
    split
    · rename_i closes
      refine (Decides.parsed (next.map fun _ => []) (front ▸ List.suffix_cons _ _)).congr
        fun es rest => ?_
      rw [Items.iff, front]
      constructor
      · rintro ⟨rfl, rfl⟩
        exact .inl ⟨_, rfl, closes, rfl⟩
      · rintro (⟨_, same, -, rfl⟩ | ⟨_, _, _, impossible, -⟩)
        · exact ⟨rfl, (List.cons.inj same).2.symm⟩
        · exact absurd impossible (Grammar.Expression.not_closing (.inl closes))
    · rename_i opens
      refine (member_decides decided (.inl rfl) "]" source
        (fun e behind es rest => ∃ others, Items template behind others rest ∧ es = e :: others)
        (fun e behind es rest => rest = behind ∧ es = [e]) ?_ ?_).congr fun es rest => ?_
      · intro first stop more
        have shorter : stop.rest.tokens.length < source.tokens.length :=
          (first.andThen stop).shorter
        simp only [more, ↓reduceIte]
        exact (items_decides decided stop.rest).map fun _ => rfl
      · intro first stop more
        simp only [more]
        refine (Decides.parsed ((first.andThen stop).map fun _ =>
          [first.value]) List.suffix_rfl).congr fun es rest => ?_
        simp [Parsed.map, Parsed.andThen, and_comm]
      · rw [Items.iff]
        constructor
        · exact .inr
        · rintro (⟨t, same, closes, -⟩ | member)
          · obtain ⟨rfl, -⟩ := List.cons.inj (front.symm.trans same)
            exact absurd closes opens
          · exact member
termination_by source.tokens.length

/-- The rest of an object, behind the entries in front. -/
theorem entriesAfter_decides {nested : Reading n Expr} (decided : DecidesLevel template .or nested)
    (before : List (String × Expr)) (distinct : Entries.Distinct before) (source : Source n) :
    Decides Parsed.seen source.tokens anywhere
      (fun all rest => ∃ fields, Fields template source.tokens fields rest ∧
        Entries.Distinct (before ++ fields) ∧
        all = before ++ fields)
      (entriesAfter nested before source) := by
  rw [entriesAfter]
  cases peeked : source.next? with
  | none =>
    refine Decides.refused ?_
    rintro all rest ⟨fields, derived, -⟩
    rw [Source.next?_none peeked] at derived
    exact absurd derived Fields.not_nil
  | some key =>
    have front := Source.next?_some peeked
    rw [front]
    dsimp only
    split
    · rename_i closes
      have unnamed : isObjectKey key.value = false := by simp [isObjectKey, closes]
      refine (Decides.parsed (key.map fun _ => before) (List.suffix_cons _ _)).congr
        fun all rest => ?_
      constructor
      · rintro ⟨rfl, rfl⟩
        exact ⟨[], .close closes, by simpa using distinct, by simp⟩
      · rintro ⟨fields, derived, -, rfl⟩
        obtain ⟨-, rfl, rfl⟩ | ⟨named, -⟩ := Fields.cons_iff.mp derived
        · exact ⟨List.append_nil _, rfl⟩
        · exact absurd named (by simp [unnamed])
    · rename_i opens
      split
      · rename_i unnamed
        refine Decides.refused ?_
        rintro all rest ⟨fields, derived, -⟩
        obtain ⟨closes, -⟩ | ⟨named, -⟩ := Fields.cons_iff.mp derived
        · exact absurd closes opens
        · exact absurd named (by simpa using unnamed)
      · rename_i named
        split
        · rename_i taken
          refine Decides.refused ?_
          rintro all rest ⟨fields, derived, unique, -⟩
          obtain ⟨closes, -⟩ | ⟨-, _, _, -, e, _, _, -, fields⟩ := Fields.cons_iff.mp derived
          · exact absurd closes opens
          · have known := (Entries.get?_isSome_iff before key.value.text).mp taken
            obtain ⟨-, _, -, rfl⟩ | ⟨-, -, rfl⟩ := fields <;>
              exact fun _ => Entries.not_distinct_of_known known unique
        · rename_i new
          have extended : ∀ e, Entries.Distinct (before ++ [(key.value.text, e)]) := fun e =>
            Entries.distinct_append_single distinct fun known =>
              new ((Entries.get?_isSome_iff before key.value.text).mpr known)
          refine (((symbol_decides .colon ":" key.rest).next (fun _ => Member template .rightBrace
            (fun e behind all rest => ∃ others, Fields template behind others rest ∧
              Entries.Distinct (before ++ [(key.value.text, e)] ++ others) ∧
              all = before ++ [(key.value.text, e)] ++ others)
            (fun e behind all rest => rest = behind ∧ all = before ++ [(key.value.text, e)]))
            fun colon _ => member_decides decided (.inr rfl) "\x7d" colon.rest _ _ ?_ ?_).suffix
            (List.suffix_cons _ _)).congr fun all rest => ?_
          · intro value stop more
            have shorter : stop.rest.tokens.length < source.tokens.length :=
              (key.andThen (colon.andThen (value.andThen stop))).shorter
            simp only [more, ↓reduceIte]
            refine ((entriesAfter_decides decided _ (extended value.value) stop.rest).map (f := id)
              fun _ => rfl).congr fun all rest => ?_
            simp [and_assoc]
          · intro value stop more
            simp only [more]
            refine (Decides.parsed ((key.andThen (colon.andThen (value.andThen stop))).map fun _ =>
              before ++ [(key.value.text, value.value)]) List.suffix_rfl).congr fun all rest => ?_
            simp [Parsed.map, Parsed.andThen, and_comm]
          · constructor
            · rintro ⟨colon, more, means, e, stop, behind, derived,
                ⟨comma, others, further, unique, rfl⟩ | ⟨closes, rfl, rfl⟩⟩
              · have member := Fields.cons_iff.mpr
                  (.inr ⟨by simpa using named, colon, more, means, e, stop, behind, derived,
                  .inl ⟨comma, others, further, rfl⟩⟩)
                exact ⟨_, member, by simpa using unique, by simp⟩
              · have member := Fields.cons_iff.mpr
                  (.inr ⟨by simpa using named, colon, more, means, e, stop, rest, derived,
                  .inr ⟨closes, rfl, rfl⟩⟩)
                exact ⟨_, member, extended e, rfl⟩
            · rintro ⟨fields, whole, unique, rfl⟩
              obtain ⟨closes, -⟩ | ⟨-, colon, more, means, e, stop, behind, derived,
                ⟨comma, others, further, rfl⟩ | ⟨closes, rfl, rfl⟩⟩ := Fields.cons_iff.mp whole
              · exact absurd closes opens
              · exact ⟨colon, more, means, e, stop, behind, derived,
                  .inl ⟨comma, others, further, by simpa using unique, by simp⟩⟩
              · exact ⟨colon, more, means, e, stop, rest, derived, .inr ⟨closes, rfl, rfl⟩⟩
termination_by source.tokens.length

/-- What texts stand for is wrong only in a way that can be complained about, as long as all
numerals are decimal. -/
def Complaining (template : Templates) : Prop :=
  ∀ t failure, t.isString → t.Decimal → template t = .error failure → ∃ complaint,
    failure = .complaint complaint

/-- A decimal numeral is a number. -/
theorem numberOf_of_decimal {t : Token} (digits : t.kind = .number) (decimal : t.Decimal) :
    ∃ value, numberOf t = .ok value := by
  have numeral : Number.IsNumeral t.text.toList := by
    cases decimal with
    | other other _ => exact absurd digits other
    | number _ numeral => exact numeral
    | string quoted _ => simp [Token.isString, digits] at quoted
  unfold numberOf
  generalize same : t.text.toList = chars at *
  cases numeral with
  | integer signed whole few =>
    have plain : t.isDotted = false := by
      rw [Token.isDotted, same]
      exact Number.not_dotted_of_digits signed whole
    obtain ⟨i, read⟩ := Number.readInt_of_digits signed whole few
    exact ⟨.integer i, by simp [plain, read]⟩
  | fraction signed whole part =>
    have dotted : t.isDotted := by simp [Token.isDotted, same]
    obtain ⟨x, read⟩ := Number.readFloat?_of_fraction signed whole part
    exact ⟨.number x, by simp [dotted, read]⟩

theorem ended_operand (rest : List Token) : Ended .operand rest := by
  simp [Ended, Level.continues]

/-- The end of a group. -/
theorem group_decides {nested : Reading n Expr} (decided : DecidesLevel template .or nested)
    (source : Source n) :
    Decides Parsed.seen source.tokens anywhere
      (fun e rest => ∃ close, Grammar.Expression template .or source.tokens e (close :: rest) ∧
        close.kind = .rightParen)
      ((nested.andThen fun inner => (symbol .rightParen ")").map fun _ => inner) source) := by
  refine (andThen_decides (decided source) (fun inner middle e rest => ∃ close,
    (middle = close :: rest ∧
    close.kind = .rightParen) ∧ e = inner) ?_).congr ?_
  · exact fun inner _ => map_decides (symbol_decides _ _ inner.rest)
  · intro e rest
    constructor
    · rintro ⟨inner, _, ⟨derived, -⟩, close, ⟨rfl, closes⟩, rfl⟩
      exact ⟨close, derived, closes⟩
    · rintro ⟨close, derived, closes⟩
      have ended : Ended .or (close :: rest) :=
        ended_cons.mpr (not_continues_of_kind (by simp [closes]) (by simp [closes]))
      exact ⟨e, _, ⟨derived, ended⟩, close, ⟨rfl, closes⟩, rfl⟩

/-- An operand. -/
theorem operand_decides (complaining : Complaining template) {nested : Reading n Expr}
    (decided : DecidesLevel template .or nested) :
    DecidesLevel template .operand (operand template nested) := by
  intro source
  rw [operand]
  cases peeked : source.next? with
  | none =>
    refine Decides.refused fun e rest derived _ => ?_
    rw [Source.next?_none peeked] at derived
    exact absurd derived.1 Grammar.Expression.not_nil
  | some next =>
    have front := Source.next?_some peeked
    have behind := List.suffix_cons next.value next.rest.tokens
    rw [front]
    simp only [ended_operand, and_true]
    split
    · rename_i quoted
      refine (Decides.given (f := id) (fun _ => rfl) behind fun failure wrong decimal =>
        complaining _ _ quoted (decimal _ List.mem_cons_self) wrong).congr fun e rest => ?_
      rw [Grammar.Expression.string_iff quoted]
      simp
    split
    · rename_i digits
      refine (Decides.given (f := (.literal · next.value.position)) (fun _ => rfl) behind
        fun failure wrong decimal => ?_).congr fun e rest =>
        (Grammar.Expression.number_iff digits).symm
      obtain ⟨value, right⟩ := numberOf_of_decimal digits (decimal _ List.mem_cons_self)
      cases wrong.symm.trans right
    split
    · rename_i word
      refine (Decides.parsed (next.map fun _ =>
        Expr.literal (.boolean (next.value.text = "true")) next.value.position)
        behind).congr fun e rest => (Grammar.Expression.truth_iff word).symm
    rename_i truthless
    split
    · rename_i word
      refine (Decides.parsed (next.map fun _ =>
        Expr.literal .null next.value.position) behind).congr fun e rest =>
        (Grammar.Expression.null_iff word).symm
    rename_i other
    split
    · rename_i names
      exact (Decides.parsed (next.map referenceOf) behind).congr fun e rest =>
        (Grammar.Expression.reference_iff names (by simpa using other)).symm
    split
    · rename_i opens
      refine ((within_decides (map_decides (items_decides decided next.inside))).suffix
        behind).congr fun e rest => ?_
      rw [Grammar.Expression.list_iff opens]
      rfl
    split
    · rename_i opens
      refine ((within_decides (map_decides
        (entriesAfter_decides decided [] (by simp [Entries.Distinct, Entries.keys])
        next.inside))).suffix behind).congr fun e rest => ?_
      rw [Grammar.Expression.object_iff opens]
      simp [Parsed.inside, and_assoc]
    split
    · rename_i opens
      refine ((within_decides (group_decides decided next.inside)).suffix behind).congr
        fun e rest => ?_
      rw [Grammar.Expression.group_iff opens]
      rfl
    · refine Decides.refused fun e rest derived _ => ?_
      refine absurd derived (Grammar.Expression.not_operand ?_)
      simp_all [opensOperand]

/-- An expression, given the expressions inside it. -/
theorem expressionWith_decides (complaining : Complaining template) {nested : Reading n Expr}
    (decided : DecidesLevel template .or nested) :
    DecidesLevel template .or (expressionWith template nested) := by
  have unified : Level.coalesce.joint? = some ⟨isOperator "??", coalesceAll⟩ := rfl
  have added : Level.concat.joint? = some ⟨isOperator "+", .concat⟩ := rfl
  have both : Level.and.joint? = some ⟨(·.isKeyword "and"), .junction .and⟩ := rfl
  have either : Level.or.joint? = some ⟨(·.isKeyword "or"), .junction .or⟩ := rfl
  have concat :=
    joined_decides rfl added <| joined_decides rfl unified <| operand_decides complaining decided
  exact joined_decides rfl either <| joined_decides rfl both <| negated_decides <|
    comparison_decides concat

/-- An expression. -/
theorem expression_decides (complaining : Complaining template) :
    DecidesLevel template .or (expression template : Reading n Expr) := by
  induction n with
  | zero => exact fun source => absurd source.few (Nat.not_lt_zero _)
  | succ n ih => exact fun source => expressionWith_decides complaining ih source

end Reading

end BotScript
