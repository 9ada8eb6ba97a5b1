import BotScript.Proofs.Syntax.Grammar

/-! Braces in expressions. Every brace that an expression opens it closes again, and it closes none
that it has not opened, so as many braces are open behind it as in front of it. -/

namespace BotScript

namespace TokenKind

def isBrace : TokenKind → Bool
  | leftBrace | rightBrace => true
  | _ => false

/-- How many braces are open behind a token, unless it closes one that is not open. -/
def braces? (depth : Nat) : TokenKind → Option Nat
  | leftBrace => some (depth + 1)
  | rightBrace =>
    match depth with
    | 0 => none
    | depth + 1 => some depth
  | _ => some depth

theorem braces?_other {depth : Nat} {kind : TokenKind} (other : kind.isBrace = false) :
    braces? depth kind = some depth := by
  cases kind <;> first | rfl | cases other

end TokenKind

/-- How many braces are open behind some tokens. -/
def bracesBehind? (depth : Nat) (kinds : List TokenKind) : Option Nat :=
  kinds.foldlM TokenKind.braces? depth

section

variable {depth : Nat} {kind : TokenKind} {kinds : List TokenKind}

theorem bracesBehind?_open :
    bracesBehind? depth (.leftBrace :: kinds) = bracesBehind? (depth + 1) kinds := rfl

theorem bracesBehind?_close :
    bracesBehind? (depth + 1) (.rightBrace :: kinds) = bracesBehind? depth kinds := rfl

theorem bracesBehind?_other (other : kind.isBrace = false) :
    bracesBehind? depth (kind :: kinds) = bracesBehind? depth kinds := by
  rw [bracesBehind?, List.foldlM_cons, TokenKind.braces?_other other]
  rfl

end

namespace Token

variable {t : Token} {word : String}

theorem unbraced_of_is {kind : TokenKind} (same : t.is kind word) (other : kind.isBrace = false) :
    t.kind.isBrace = false := by
  obtain ⟨kinds, -⟩ := Bool.and_eq_true_iff.mp same
  rw [of_decide_eq_true kinds, other]

theorem unbraced_of_keyword (same : t.isKeyword word) : t.kind.isBrace = false :=
  unbraced_of_is same rfl

end Token

namespace Grammar

open Reading (isOperator isComparison isReference isObjectKey)

variable {template : Templates} {t : Token}

theorem unbraced_of_comparison (compares : isComparison t) : t.kind.isBrace = false := by
  rcases Bool.or_eq_true_iff.mp compares with sign | word
  · rcases Bool.or_eq_true_iff.mp sign with equal | unequal
    · exact Token.unbraced_of_is equal rfl
    · exact Token.unbraced_of_is unequal rfl
  · exact Token.unbraced_of_keyword word

theorem unbraced_of_joint {level : Level} {joint : Joint} (links : level.joint? = some joint)
    (joins : joint.joins t) :
    t.kind.isBrace = false := by
  cases level <;> cases links
  · exact Token.unbraced_of_keyword joins
  · exact Token.unbraced_of_keyword joins
  · exact Token.unbraced_of_is joins rfl
  · exact Token.unbraced_of_is joins rfl

theorem unbraced_of_reference (names : isReference t) : t.kind.isBrace = false := by
  unfold isReference at names
  cases kind : t.kind <;> simp_all [TokenKind.isBrace]

theorem unbraced_of_objectKey (named : isObjectKey t) : t.kind.isBrace = false := by
  unfold isObjectKey at named
  cases kind : t.kind <;> simp_all [TokenKind.isBrace]

theorem unbraced_of_string (quoted : t.isString) : t.kind.isBrace = false := by
  unfold Token.isString at quoted
  cases kind : t.kind <;> simp_all [TokenKind.isBrace]

-- One case for every rule of the grammar; only the rules for objects read a brace.
mutual

/-- As many braces are open behind an expression as in front of it. -/
theorem Expression.balanced {level : Level} {ts rest : List Token} {e : Expr}
    (derived : Expression template level ts e rest) (depth : Nat) :
    bracesBehind? depth (ts.map Token.kind) = bracesBehind? depth (rest.map Token.kind) := by
  match derived with
  | .tighter binds inner => exact inner.balanced depth
  | .joined binds links all several => exact all.balanced links depth
  | .negation negates inner =>
    rw [List.map_cons, bracesBehind?_other (Token.unbraced_of_keyword negates)]
    exact inner.balanced depth
  | .comparison compares first second =>
    rw [first.balanced, List.map_cons, bracesBehind?_other (unbraced_of_comparison compares)]
    exact second.balanced depth
  | .string quoted stands => exact bracesBehind?_other (unbraced_of_string quoted)
  | .number digits stands => exact bracesBehind?_other (by rw [digits]; rfl)
  | .truth word =>
    rcases Bool.or_eq_true_iff.mp word with yes | no
    · exact bracesBehind?_other (Token.unbraced_of_keyword yes)
    · exact bracesBehind?_other (Token.unbraced_of_keyword no)
  | .null word => exact bracesBehind?_other (Token.unbraced_of_is word rfl)
  | .reference names plain => exact bracesBehind?_other (unbraced_of_reference names)
  | .list opens all =>
    rw [List.map_cons, opens, bracesBehind?_other rfl]
    exact all.balanced depth
  | .object opens all distinct =>
    rw [List.map_cons, opens, bracesBehind?_open]
    exact all.balanced depth
  | .group opens inner closes =>
    rw [List.map_cons, opens, bracesBehind?_other rfl, inner.balanced, List.map_cons, closes,
      bracesBehind?_other rfl]

theorem Parts.balanced {level outer : Level} {joint : Joint} {ts rest : List Token} {es : List Expr}
    (derived : Parts template level joint ts es rest) (links : outer.joint? = some joint)
    (depth : Nat) :
    bracesBehind? depth (ts.map Token.kind) = bracesBehind? depth (rest.map Token.kind) := by
  match derived with
  | .last only => exact only.balanced depth
  | .more first joins others =>
    rw [first.balanced, List.map_cons, bracesBehind?_other (unbraced_of_joint links joins)]
    exact others.balanced links depth

theorem Items.balanced {ts rest : List Token} {es : List Expr} (derived : Items template ts es rest)
    (depth : Nat) :
    bracesBehind? depth (ts.map Token.kind) = bracesBehind? depth (rest.map Token.kind) := by
  match derived with
  | .close closes => exact bracesBehind?_other (by rw [closes]; rfl)
  | .last only closes => rw [only.balanced, List.map_cons, closes, bracesBehind?_other rfl]
  | .more first separates others =>
    rw [first.balanced, List.map_cons, separates, bracesBehind?_other rfl]
    exact others.balanced depth

/-- The rest of an object closes the brace in front of it. -/
theorem Fields.balanced {ts rest : List Token} {fields : List (String × Expr)}
    (derived : Fields template ts fields rest) (depth : Nat) :
    bracesBehind? (depth + 1) (ts.map Token.kind) = bracesBehind? depth (rest.map Token.kind) := by
  match derived with
  | .close closes => rw [List.map_cons, closes, bracesBehind?_close]
  | .last named means only closes =>
    rw [List.map_cons, List.map_cons, bracesBehind?_other (unbraced_of_objectKey named), means,
      bracesBehind?_other rfl, only.balanced, List.map_cons, closes, bracesBehind?_close]
  | .more named means first separates others =>
    rw [List.map_cons, List.map_cons, bracesBehind?_other (unbraced_of_objectKey named), means,
      bracesBehind?_other rfl, first.balanced, List.map_cons, separates, bracesBehind?_other rfl]
    exact others.balanced depth

end

end Grammar

end BotScript
