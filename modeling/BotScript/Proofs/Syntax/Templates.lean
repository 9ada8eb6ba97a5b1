import BotScript.Proofs.Syntax.Expressions

/-! Texts with holes. Whatever is wrong with a text or with a hole in it can be complained about, as
long as all numerals are decimal. -/

namespace BotScript

theorem Token.Decimal.holes {t : Token} (decimal : t.Decimal) (quoted : t.isString) :
    ∀ chars stream, .hole chars ∈ (Template.cut t.text.toList).parts →
      Lexer.scan .start chars = .ok stream →
      ∀ inner ∈ stream.tokens, inner.Decimal := by
  cases decimal with
  | other _ other => exact absurd quoted (by simp [other])
  | number digits _ => simp [Token.isString, digits] at quoted
  | string _ holes => exact holes

namespace Reading

variable {template : Grammar.Templates}

/-- Segments are wrong because a hole is. -/
theorem segments_error {hole : List Char → Except Failure Expr} {parts : List Template.Part}
    {failure : Failure} (wrong : segments hole parts = .error failure) :
    ∃ chars, .hole chars ∈ parts ∧ hole chars = .error failure := by
  induction parts with
  | nil => cases wrong
  | cons part parts ih =>
    have later (behind : segments hole parts = .error failure) :
        ∃ chars, .hole chars ∈ part :: parts ∧ hole chars = .error failure := by
      obtain ⟨chars, member, inner⟩ := ih behind
      exact ⟨chars, List.mem_cons_of_mem _ member, inner⟩
    cases part with
    | text chars =>
      rw [segments] at wrong
      cases others : segments hole parts with
      | ok all => simp [others, bind, Except.bind, pure, Except.pure] at wrong
      | error other =>
        rw [others] at wrong
        obtain rfl : other = failure := by simpa [bind, Except.bind] using wrong
        exact later others
    | hole chars =>
      rw [segments] at wrong
      cases inner : hole chars with
      | error other =>
        rw [inner] at wrong
        obtain rfl : other = failure := by simpa [bind, Except.bind] using wrong
        exact ⟨chars, List.mem_cons_self, inner⟩
      | ok e =>
        cases others : segments hole parts with
        | ok all => simp [inner, others, bind, Except.bind, pure, Except.pure] at wrong
        | error other =>
          rw [inner, others] at wrong
          obtain rfl : other = failure := by simpa [bind, Except.bind] using wrong
          exact later others

/-- A text is wrong in its braces or in one of its holes. -/
theorem templateWith_error {hole : List Char → Except Failure Expr} {t : Token} {failure : Failure}
    (wrong : templateWith hole t = .error failure) : (∃ complaint, failure = .complaint complaint) ∨
      ∃ chars, .hole chars ∈ (Template.cut t.text.toList).parts ∧ hole chars = .error failure := by
  unfold templateWith at wrong
  dsimp only at wrong
  cases all : segments hole (Template.cut t.text.toList).parts with
  | error other =>
    rw [all] at wrong
    obtain rfl : other = failure := by simpa [bind, Except.bind] using wrong
    exact .inr (segments_error all)
  | ok segments =>
    rw [all] at wrong
    simp only [bind, Except.bind] at wrong
    split at wrong
    · exact .inl ⟨_, (Except.error.inj wrong).symm⟩
    · split at wrong <;> cases wrong

/-- What is wrong with a hole can be complained about. -/
theorem hole_error (complaining : Complaining template) {t : Token} {chars : List Char}
    {failure : Failure}
    (decimal : ∀ stream, Lexer.scan .start chars = .ok stream → ∀ inner ∈ stream.tokens,
      inner.Decimal)
    (wrong : hole template t chars = .error failure) :
    ∃ complaint, failure = .complaint complaint := by
  unfold hole at wrong
  dsimp only at wrong
  split at wrong
  · exact ⟨_, (Except.error.inj wrong).symm⟩
  · rename_i stream scanned
    have decided := expression_decides complaining (.all stream.tokens)
    split at wrong
    · exact ⟨_, (Except.error.inj wrong).symm⟩
    · rename_i digits read
      rw [read] at decided
      obtain ⟨complaint, impossible⟩ := decided.2 (decimal stream scanned)
      cases impossible
    · split at wrong
      · cases wrong
      · exact ⟨_, (Except.error.inj wrong).symm⟩

theorem complaining_templateWithin (depth : Nat) : Complaining (templateWithin depth) := by
  induction depth with
  | zero =>
    intro t failure _ _ wrong
    obtain complaint | ⟨chars, -, inner⟩ := templateWith_error wrong
    · exact complaint
    · exact ⟨_, (Except.error.inj inner).symm⟩
  | succ depth ih =>
    intro t failure quoted decimal wrong
    obtain complaint | ⟨chars, part, inner⟩ := templateWith_error wrong
    · exact complaint
    · exact hole_error ih (fun stream scanned =>
        decimal.holes quoted chars stream part scanned) inner

/-- What is wrong with a text can be complained about. -/
theorem complaining_template : Complaining Reading.template :=
  fun t => complaining_templateWithin (Template.openBraces t.text.toList) t

end Reading

end BotScript
