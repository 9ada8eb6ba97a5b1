import BotScript.Proofs.Syntax.Grammar

/-! What the derivations of expressions consist of: which token they start with, which tokens may
follow them, and from which parts they are made. -/

namespace BotScript

namespace Entries

variable {κ α : Type} {before others : List (κ × α)} {key : κ} {a : α}

theorem distinct_append_single (distinct : Distinct before) (new : key ∉ keys before) :
    Distinct (before ++ [(key, a)]) := by
  have listed : keys (before ++ [(key, a)]) = keys before ++ [key] := by simp [keys]
  rw [Distinct, listed]
  refine List.nodup_append.mpr ⟨distinct, by simp, ?_⟩
  rintro k known other single rfl
  exact new (List.mem_singleton.mp single ▸ known)

theorem not_distinct_of_known (known : key ∈ keys before) :
    ¬ Distinct (before ++ (key, a) :: others) := by
  intro distinct
  have listed : keys (before ++ (key, a) :: others) = keys before ++ key :: keys others := by
    simp [keys]
  rw [Distinct, listed] at distinct
  exact (List.nodup_append.mp distinct).2.2 key known key List.mem_cons_self rfl

end Entries

namespace Grammar

variable {template : Templates} {level next : Level} {joint : Joint} {t : Token}
  {ts rest : List Token} {e : Expr}

/-- No token goes on with an expression of a level. -/
def Ended (level : Level) (rest : List Token) : Prop :=
  ∀ t ∈ rest.head?, level.continues t = false

theorem ended_cons : Ended level (t :: rest) ↔ level.continues t = false := by
  simp [Ended]

theorem ended_nil : Ended level [] := by
  simp [Ended]

/-- An expression goes on with an operator of its own level or of a tighter one, and no operator is
both. -/
theorem continues_of_joint (binds : level.tighter? = some next) (links : level.joint? = some joint)
    (t : Token) :
    level.continues t = (joint.joins t || next.continues t) := by
  cases level <;> simp only [Level.joint?, reduceCtorEq, Option.some.injEq] at links <;>
    simp only [Level.tighter?, Option.some.injEq] at binds <;> subst links binds <;>
    simp [Level.continues, Bool.or_assoc]

theorem not_continues_of_joins (binds : level.tighter? = some next)
    (links : level.joint? = some joint) (joins : joint.joins t) : next.continues t = false := by
  cases level <;> simp only [Level.joint?, reduceCtorEq, Option.some.injEq] at links <;>
    simp only [Level.tighter?, Option.some.injEq] at binds <;> subst links binds <;>
    simp_all [Level.continues, Token.isKeyword, Token.is, Reading.isOperator, Reading.isComparison]

theorem ended_of_joint (binds : level.tighter? = some next) (links : level.joint? = some joint) :
    Ended level rest ↔ Ended next rest ∧ ∀ t ∈ rest.head?, ¬ joint.joins t := by
  simp only [Ended, continues_of_joint binds links, Bool.or_eq_false_iff, Bool.not_eq_true]
  exact ⟨fun both => ⟨fun t first => (both t first).2, fun t first => (both t first).1⟩,
    fun both t first => ⟨both.2 t first, both.1 t first⟩⟩

/-- The token can be the first one of an operand. -/
def opensOperand (t : Token) : Bool :=
  t.isString || t.kind = .number || t.isKeyword "true" || t.isKeyword "false" ||
    Reading.isReference t ||
    t.kind = .leftBracket || t.kind = .leftBrace || t.kind = .leftParen

/-- The level takes negations. -/
def Level.negates : Level → Bool
  | or | and | not => true
  | _ => false

mutual

/-- Expressions start with an operand, or with a negation where that is allowed. -/
theorem Expression.opens {level : Level} {ts rest : List Token} {e : Expr}
    (derived : Expression template level ts e rest) :
    ∃ t more, ts = t :: more ∧ (opensOperand t ∨ (level.negates ∧ t.isKeyword "not")) := by
  match derived with
  | .tighter binds inner =>
    obtain ⟨t, more, same, operand | ⟨negates, word⟩⟩ := inner.opens
    · exact ⟨t, more, same, .inl operand⟩
    · refine ⟨t, more, same, .inr ⟨?_, word⟩⟩
      cases level <;> simp only [Level.tighter?, Option.some.injEq, reduceCtorEq] at binds <;>
        subst binds <;>
        simp_all [Level.negates]
  | .joined binds _ all _ =>
    obtain ⟨t, more, same, operand | ⟨negates, word⟩⟩ := all.opens
    · exact ⟨t, more, same, .inl operand⟩
    · refine ⟨t, more, same, .inr ⟨?_, word⟩⟩
      cases level <;> simp only [Level.tighter?, Option.some.injEq, reduceCtorEq] at binds <;>
        subst binds <;>
        simp_all [Level.negates]
  | .negation negates _ => exact ⟨_, _, rfl, .inr ⟨rfl, negates⟩⟩
  | .comparison _ first _ =>
    obtain ⟨t, more, same, operand | ⟨impossible, -⟩⟩ := first.opens
    · exact ⟨t, more, same, .inl operand⟩
    · cases impossible
  | .string quoted _ => exact ⟨_, _, rfl, .inl (by simp [opensOperand, quoted])⟩
  | .number digits _ => exact ⟨_, _, rfl, .inl (by simp [opensOperand, digits])⟩
  | .truth word =>
    exact ⟨_, _, rfl, .inl (by rcases Bool.or_eq_true_iff.mp word with h | h <;>
      simp [opensOperand, h])⟩
  | .null word =>
    refine ⟨_, _, rfl, .inl ?_⟩
    simp_all [opensOperand, Token.is, Reading.isReference]
  | .reference names _ => exact ⟨_, _, rfl, .inl (by simp [opensOperand, names])⟩
  | .list opens _ => exact ⟨_, _, rfl, .inl (by simp [opensOperand, opens])⟩
  | .object opens _ _ => exact ⟨_, _, rfl, .inl (by simp [opensOperand, opens])⟩
  | .group opens _ _ => exact ⟨_, _, rfl, .inl (by simp [opensOperand, opens])⟩

theorem Parts.opens {level : Level} {joint : Joint} {ts rest : List Token} {es : List Expr}
    (derived : Parts template level joint ts es rest) :
    ∃ t more, ts = t :: more ∧ (opensOperand t ∨ (level.negates ∧ t.isKeyword "not")) := by
  match derived with
  | .last only => exact only.opens
  | .more first _ _ => exact first.opens

end

theorem Parts.length_pos {level : Level} {es : List Expr}
    (derived : Parts template level joint ts es rest) :
    0 < es.length := by
  cases derived <;> simp

theorem Expression.opens_at (derived : Expression template level (t :: ts) e rest) :
    opensOperand t ∨ t.isKeyword "not" := by
  obtain ⟨_, _, same, operand | ⟨-, negates⟩⟩ := derived.opens
  · obtain ⟨rfl, -⟩ := List.cons.inj same
    exact .inl operand
  · obtain ⟨rfl, -⟩ := List.cons.inj same
    exact .inr negates

/-- Expressions do not start with a closing bracket. -/
theorem Expression.not_closing
    (closes : t.kind = .rightBracket ∨ t.kind = .rightBrace ∨ t.kind = .rightParen) :
    ¬ Expression template level (t :: ts) e rest := by
  intro derived
  rcases closes with kind | kind | kind <;> rcases derived.opens_at with opens | opens <;>
    simp [opensOperand, Token.isString, Token.isKeyword, Token.is, Reading.isReference,
      kind] at opens

/-- Expressions do not go on behind a bracket or a comma. -/
theorem not_continues_of_kind (keyword : t.kind ≠ .keyword) (operator : t.kind ≠ .operator) :
    level.continues t = false := by
  cases level <;>
    simp [Level.continues, Token.isKeyword, Token.is, Reading.isOperator, Reading.isComparison,
      keyword, operator]

/-- No expression is read from nothing. -/
theorem Expression.not_nil : ¬ Expression template level [] e rest := by
  intro derived
  obtain ⟨_, _, impossible, -⟩ := derived.opens
  cases impossible

theorem not_opensOperand_of_negation (negates : t.isKeyword "not") : opensOperand t = false := by
  simp [opensOperand, Token.isString, Token.isKeyword, Token.is, Reading.isReference,
    Reading.referenceWords, Token.isKeyword_iff.mp negates]

/-- A comparison does not start with a negation. -/
theorem Expression.not_after_negation (negates : t.isKeyword "not") :
    ¬ Expression template .comparison (t :: ts) e rest := by
  intro derived
  obtain ⟨_, _, same, operand | ⟨impossible, -⟩⟩ := derived.opens
  · obtain ⟨rfl, -⟩ := List.cons.inj same
    exact absurd operand (by simp [not_opensOperand_of_negation negates])
  · cases impossible

/-! ## What a derivation consists of -/

/-- What some parts make up: one part stands for itself, several are joined. -/
def joinedParts (joint : Joint) (p : Position) : List Expr → Expr
  | [single] => single
  | parts => joint.join parts p

theorem joinedParts_of_several {parts : List Expr} (several : 2 ≤ parts.length) (p : Position) :
    joinedParts joint p parts = joint.join parts p := by
  unfold joinedParts
  split
  · simp at several
  · rfl

theorem Expression.joined_iff (binds : level.tighter? = some next)
    (links : level.joint? = some joint) :
    Expression template level ts e rest ↔
      ∃ parts, Parts template next joint ts parts rest ∧
        e = joinedParts joint (positionOf ts) parts := by
  constructor
  · intro derived
    cases derived with
    | tighter binds' inner =>
      obtain rfl := Option.some.inj (binds.symm.trans binds')
      exact ⟨_, .last inner, rfl⟩
    | joined binds' links' all several =>
      obtain rfl := Option.some.inj (binds.symm.trans binds')
      obtain rfl := Option.some.inj (links.symm.trans links')
      exact ⟨_, all, (joinedParts_of_several several _).symm⟩
    | negation | comparison | string | number | truth | null | reference | list | object | group =>
      cases links
  · rintro ⟨parts, all, rfl⟩
    cases all with
    | last only => exact .tighter binds only
    | @more _ _ _ _ _ _ first es head joins others =>
      have several : 2 ≤ (first :: es).length := Nat.succ_le_succ others.length_pos
      rw [joinedParts_of_several several]
      exact .joined binds links (.more head joins others) several

theorem Expression.comparison_iff :
    Expression template .comparison ts e rest ↔ Expression template .concat ts e rest ∨
      ∃ left sign more right, Expression template .concat ts left (sign :: more) ∧
        Reading.isComparison sign ∧
        Expression template .concat more right rest ∧
        e = Reading.compare sign left right (positionOf ts) := by
  constructor
  · intro derived
    cases derived with
    | tighter binds inner =>
      obtain rfl := Option.some.inj binds
      exact .inl inner
    | joined _ links _ _ => cases links
    | comparison compares first second => exact .inr ⟨_, _, _, _, first, compares, second, rfl⟩
  · rintro (inner | ⟨left, sign, more, right, first, compares, second, rfl⟩)
    · exact .tighter rfl inner
    · exact .comparison compares first second

theorem Expression.negation_iff :
    Expression template .not ts e rest ↔ Expression template .comparison ts e rest ∨
      ∃ word more inner, ts = word :: more ∧ word.isKeyword "not" ∧
        Expression template .not more inner rest ∧
        e = .negation inner word.position := by
  constructor
  · intro derived
    cases derived with
    | tighter binds inner =>
      obtain rfl := Option.some.inj binds
      exact .inl inner
    | joined _ links _ _ => cases links
    | negation negates inner => exact .inr ⟨_, _, _, rfl, negates, inner, rfl⟩
  · rintro (inner | ⟨word, more, inner, rfl, negates, derived, rfl⟩)
    · exact .tighter rfl inner
    · exact .negation negates derived

theorem Expression.operand_iff :
    Expression template .operand (t :: ts) e rest ↔
      (t.isString ∧ template t = .ok e ∧ rest = ts) ∨
      (t.kind = .number ∧ ∃ value, Reading.numberOf t = .ok value ∧
        e = .literal value t.position ∧ rest = ts) ∨
      ((t.isKeyword "true" || t.isKeyword "false") ∧
      e = .literal (.boolean (t.text = "true")) t.position ∧ rest = ts) ∨
      (t.is .name "null" ∧ e = .literal .null t.position ∧ rest = ts) ∨
      ((Reading.isReference t ∧ t.is .name "null" = false) ∧
      e = Reading.referenceOf t ∧ rest = ts) ∨
      (t.kind = .leftBracket ∧ ∃ es, Items template ts es rest ∧ e = .list es t.position) ∨
      (t.kind = .leftBrace ∧ ∃ fields, (Fields template ts fields rest ∧ Entries.Distinct fields) ∧
        e = .object fields t.position) ∨
      (t.kind = .leftParen ∧ ∃ close, Expression template .or ts e (close :: rest) ∧
        close.kind = .rightParen) := by
  constructor
  · intro derived
    cases derived with
    | tighter binds _ => cases binds
    | joined binds _ _ _ => cases binds
    | string quoted stands => exact .inl ⟨quoted, stands, rfl⟩
    | number digits stands => exact .inr (.inl ⟨digits, _, stands, rfl, rfl⟩)
    | truth word => exact .inr (.inr (.inl ⟨word, rfl, rfl⟩))
    | null word => exact .inr (.inr (.inr (.inl ⟨word, rfl, rfl⟩)))
    | reference names other => exact .inr (.inr (.inr (.inr (.inl ⟨⟨names, other⟩, rfl, rfl⟩))))
    | list opens all => exact .inr (.inr (.inr (.inr (.inr (.inl ⟨opens, _, all, rfl⟩)))))
    | object opens all distinct =>
      exact .inr (.inr (.inr (.inr (.inr (.inr (.inl ⟨opens, _, ⟨all, distinct⟩, rfl⟩))))))
    | group opens inner closes =>
      exact .inr (.inr (.inr (.inr (.inr (.inr (.inr ⟨opens, _, inner, closes⟩))))))
  · rintro (⟨quoted, stands, rfl⟩ | ⟨digits, _, stands, rfl, rfl⟩ | ⟨word, rfl, rfl⟩ |
      ⟨word, rfl, rfl⟩ |
      ⟨⟨names, other⟩, rfl, rfl⟩ | ⟨opens, _, all, rfl⟩ | ⟨opens, _, ⟨all, distinct⟩, rfl⟩ |
      ⟨opens, _, inner, closes⟩)
    · exact .string quoted stands
    · exact .number digits stands
    · exact .truth word
    · exact .null word
    · exact .reference names other
    · exact .list opens all
    · exact .object opens all distinct
    · exact .group opens inner closes

theorem Expression.string_iff (quoted : t.isString) :
    Expression template .operand (t :: ts) e rest ↔ template t = .ok e ∧ rest = ts := by
  have kind : t.kind = .string ∨ t.kind = .block := by simpa [Token.isString] using quoted
  rw [operand_iff]
  rcases kind with kind | kind <;>
    simp [Token.isString, Token.isKeyword, Token.is, Reading.isReference, kind]

theorem Expression.number_iff (digits : t.kind = .number) :
    Expression template .operand (t :: ts) e rest ↔
      ∃ value, Reading.numberOf t = .ok value ∧ e = .literal value t.position ∧ rest = ts := by
  simp [operand_iff, Token.isString, Token.isKeyword, Token.is, Reading.isReference, digits]

theorem Expression.truth_iff (word : t.isKeyword "true" || t.isKeyword "false") :
    Expression template .operand (t :: ts) e rest ↔
      e = .literal (.boolean (t.text = "true")) t.position ∧ rest = ts := by
  have facts : t.kind = .keyword ∧ (t.text = "true" ∨ t.text = "false") := by
    simpa [Token.isKeyword, Token.is, ← and_or_left] using word
  obtain ⟨kind, text | text⟩ := facts <;>
    simp [operand_iff, Token.isString, Token.isKeyword, Token.is, Reading.isReference,
      Reading.referenceWords, kind, text]

theorem Expression.null_iff (word : t.is .name "null") :
    Expression template .operand (t :: ts) e rest ↔ e = .literal .null t.position ∧ rest = ts := by
  have facts : t.kind = .name ∧ t.text = "null" := by simpa [Token.is] using word
  simp [operand_iff, Token.isString, Token.isKeyword, Token.is, Reading.isReference, facts]

theorem Expression.reference_iff (names : Reading.isReference t)
    (other : t.is .name "null" = false) :
    Expression template .operand (t :: ts) e rest ↔ e = Reading.referenceOf t ∧ rest = ts := by
  have facts : t.kind = .dollarName ∨ t.kind = .name ∨
      (t.kind = .keyword ∧ Reading.referenceWords.contains t.text) := by
    simpa [Reading.isReference, or_assoc] using names
  rw [operand_iff]
  simp only [names, other]
  rcases facts with kind | kind | ⟨kind, word⟩
  · simp [Token.isString, Token.isKeyword, Token.is, kind]
  · simp [Token.isString, Token.isKeyword, Token.is, kind]
  · have plain : t.text ≠ "true" ∧ t.text ≠ "false" := by
      constructor <;> intro text <;> simp [text, Reading.referenceWords] at word
    simp [Token.isString, Token.isKeyword, Token.is, kind, plain]

theorem Expression.list_iff (opens : t.kind = .leftBracket) :
    Expression template .operand (t :: ts) e rest ↔
      ∃ es, Items template ts es rest ∧ e = .list es t.position := by
  simp [operand_iff, Token.isString, Token.isKeyword, Token.is, Reading.isReference, opens]

theorem Expression.object_iff (opens : t.kind = .leftBrace) :
    Expression template .operand (t :: ts) e rest ↔
      ∃ fields, (Fields template ts fields rest ∧ Entries.Distinct fields) ∧
        e = .object fields t.position := by
  simp [operand_iff, Token.isString, Token.isKeyword, Token.is, Reading.isReference, opens]

theorem Expression.group_iff (opens : t.kind = .leftParen) :
    Expression template .operand (t :: ts) e rest ↔
      ∃ close, Expression template .or ts e (close :: rest) ∧ close.kind = .rightParen := by
  simp [operand_iff, Token.isString, Token.isKeyword, Token.is, Reading.isReference, opens]

/-- Operands start with a token that may open them. -/
theorem Expression.not_operand (opens : opensOperand t = false) :
    ¬ Expression template .operand (t :: ts) e rest := by
  intro derived
  obtain ⟨_, _, same, operand | ⟨impossible, -⟩⟩ := derived.opens
  · obtain ⟨rfl, -⟩ := List.cons.inj same
    exact absurd operand (by simp [opens])
  · cases impossible

theorem Items.iff {es : List Expr} :
    Items template ts es rest ↔ (∃ t, ts = t :: rest ∧ t.kind = .rightBracket ∧ es = []) ∨
      ∃ e stop behind, Expression template .or ts e (stop :: behind) ∧
        ((stop.kind = .comma ∧ ∃ others, Items template behind others rest ∧ es = e :: others) ∨
          (stop.kind = .rightBracket ∧ rest = behind ∧ es = [e])) := by
  constructor
  · intro derived
    cases derived with
    | close closes => exact .inl ⟨_, rfl, closes, rfl⟩
    | last only closes => exact .inr ⟨_, _, _, only, .inr ⟨closes, rfl, rfl⟩⟩
    | more first separates others => exact .inr ⟨_, _, _, first, .inl ⟨separates, _, others, rfl⟩⟩
  · rintro (⟨t, rfl, closes, rfl⟩ |
      ⟨e, stop, behind, first, ⟨separates, _, others, rfl⟩ | ⟨closes, rfl, rfl⟩⟩)
    · exact .close closes
    · exact .more first separates others
    · exact .last first closes

theorem Fields.not_nil {fields : List (String × Expr)} : ¬ Fields template [] fields rest := nofun

theorem Fields.cons_iff {key : Token} {fields : List (String × Expr)} :
    Fields template (key :: ts) fields rest ↔ (key.kind = .rightBrace ∧ rest = ts ∧ fields = []) ∨
      Reading.isObjectKey key ∧ ∃ colon more, (ts = colon :: more ∧ colon.kind = .colon) ∧
        ∃ e stop behind, Expression template .or more e (stop :: behind) ∧
          ((stop.kind = .comma ∧ ∃ others, Fields template behind others rest ∧
            fields = (key.text, e) :: others) ∨
            (stop.kind = .rightBrace ∧ rest = behind ∧ fields = [(key.text, e)])) := by
  constructor
  · intro derived
    cases derived with
    | close closes => exact .inl ⟨closes, rfl, rfl⟩
    | last named means only closes =>
      exact .inr ⟨named, _, _, ⟨rfl, means⟩, _, _, _, only, .inr ⟨closes, rfl, rfl⟩⟩
    | more named means first separates others =>
      exact .inr ⟨named, _, _, ⟨rfl, means⟩, _, _, _, first, .inl ⟨separates, _, others, rfl⟩⟩
  · rintro (⟨closes, rfl, rfl⟩ | ⟨named, colon, more, ⟨rfl, means⟩, e, stop, behind, first,
      ⟨separates, _, others, rfl⟩ | ⟨closes, rfl, rfl⟩⟩)
    · exact .close closes
    · exact .more named means first separates others
    · exact .last named means first closes

/-! ## What stands behind a phrase has no part in it -/

theorem positionOf_append {front other behind : List Token} (nonempty : front ≠ []) :
    positionOf (front ++ behind) = positionOf (front ++ other) := by
  obtain ⟨t, more, rfl⟩ := List.exists_cons_of_ne_nil nonempty
  rfl

mutual

/-- An expression is read from the tokens in front of the rest, whatever the rest is. -/
theorem Expression.frame {level : Level} {ts rest : List Token} {e : Expr}
    (derived : Expression template level ts e rest) :
    ∃ front, ts = front ++ rest ∧ ∀ other, Expression template level (front ++ other) e other := by
  match derived with
  | .tighter binds inner =>
    obtain ⟨front, rfl, again⟩ := inner.frame
    exact ⟨front, rfl, fun other => .tighter binds (again other)⟩
  | .joined binds links all several =>
    obtain ⟨front, rfl, again⟩ := all.frame
    refine ⟨front, rfl, fun other => ?_⟩
    have nonempty : front ≠ [] := by
      rintro rfl
      obtain ⟨_, _, impossible, -⟩ := (again []).opens
      cases impossible
    rw [positionOf_append nonempty]
    exact .joined binds links (again other) several
  | .negation negates inner =>
    obtain ⟨front, rfl, again⟩ := inner.frame
    exact ⟨_ :: front, rfl, fun other => .negation negates (again other)⟩
  | @Expression.comparison _ sign ts more rest left right compares first second =>
    obtain ⟨front, rfl, before⟩ := first.frame
    obtain ⟨back, rfl, after⟩ := second.frame
    refine ⟨front ++ sign :: back, by simp, fun other => ?_⟩
    have nonempty : front ≠ [] := by
      rintro rfl
      exact Expression.not_nil (before [])
    have whole := Expression.comparison compares (before (sign :: (back ++ other))) (after other)
    rw [positionOf_append nonempty] at whole
    rw [List.append_assoc]
    exact whole
  | .string quoted stands => exact ⟨[_], rfl, fun other => .string quoted stands⟩
  | .number digits stands => exact ⟨[_], rfl, fun other => .number digits stands⟩
  | .truth word => exact ⟨[_], rfl, fun other => .truth word⟩
  | .null word => exact ⟨[_], rfl, fun other => .null word⟩
  | .reference names plain => exact ⟨[_], rfl, fun other => .reference names plain⟩
  | .list opens all =>
    obtain ⟨front, rfl, again⟩ := all.frame
    exact ⟨_ :: front, rfl, fun other => .list opens (again other)⟩
  | .object opens all distinct =>
    obtain ⟨front, rfl, again⟩ := all.frame
    exact ⟨_ :: front, rfl, fun other => .object opens (again other) distinct⟩
  | @Expression.group _ t close ts rest e opens inner closes =>
    obtain ⟨front, rfl, again⟩ := inner.frame
    refine ⟨t :: (front ++ [close]), by simp, fun other => ?_⟩
    have whole := Expression.group opens (again (close :: other)) closes
    simpa using whole

theorem Parts.frame {level : Level} {joint : Joint} {ts rest : List Token} {es : List Expr}
    (derived : Parts template level joint ts es rest) :
    ∃ front, ts = front ++ rest ∧ ∀ other,
      Parts template level joint (front ++ other) es other := by
  match derived with
  | .last only =>
    obtain ⟨front, rfl, again⟩ := only.frame
    exact ⟨front, rfl, fun other => .last (again other)⟩
  | @Parts.more _ _ _ link ts behind rest e es first joins others =>
    obtain ⟨front, rfl, before⟩ := first.frame
    obtain ⟨back, rfl, after⟩ := others.frame
    refine ⟨front ++ link :: back, by simp, fun other => ?_⟩
    rw [List.append_assoc]
    exact .more (before (link :: (back ++ other))) joins (after other)

theorem Items.frame {ts rest : List Token} {es : List Expr} (derived : Items template ts es rest) :
    ∃ front, ts = front ++ rest ∧ ∀ other, Items template (front ++ other) es other := by
  match derived with
  | .close closes => exact ⟨[_], rfl, fun other => .close closes⟩
  | @Items.last _ close ts rest e only closes =>
    obtain ⟨front, rfl, again⟩ := only.frame
    refine ⟨front ++ [close], by simp, fun other => ?_⟩
    rw [List.append_assoc]
    exact .last (again (close :: other)) closes
  | @Items.more _ comma ts behind rest e es first separates others =>
    obtain ⟨front, rfl, before⟩ := first.frame
    obtain ⟨back, rfl, after⟩ := others.frame
    refine ⟨front ++ comma :: back, by simp, fun other => ?_⟩
    rw [List.append_assoc]
    exact .more (before (comma :: (back ++ other))) separates (after other)

theorem Fields.frame {ts rest : List Token} {fields : List (String × Expr)}
    (derived : Fields template ts fields rest) :
    ∃ front, ts = front ++ rest ∧ ∀ other, Fields template (front ++ other) fields other := by
  match derived with
  | .close closes => exact ⟨[_], rfl, fun other => .close closes⟩
  | @Fields.last _ key colon close ts rest e named means only closes =>
    obtain ⟨front, rfl, again⟩ := only.frame
    refine ⟨key :: colon :: (front ++ [close]), by simp, fun other => ?_⟩
    have whole := Fields.last named means (again (close :: other)) closes
    simpa using whole
  | @Fields.more _ key colon comma ts behind rest e fields named means first separates others =>
    obtain ⟨front, rfl, before⟩ := first.frame
    obtain ⟨back, rfl, after⟩ := others.frame
    refine ⟨key :: colon :: (front ++ comma :: back), by simp, fun other => ?_⟩
    have whole :=
      Fields.more named means (before (comma :: (back ++ other))) separates (after other)
    simpa using whole

end

end Grammar

end BotScript
