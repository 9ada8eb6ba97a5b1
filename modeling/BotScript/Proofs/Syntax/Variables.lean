import BotScript.Evaluation.Environment
import BotScript.Proofs.Syntax.Each

/-! The variables of a program. A dollar sign in front of a variable belongs to no token's text, so
the names that a program reads, binds and declares are those of the variables themselves. -/

namespace BotScript

/-- The name denotes the variable of just that name. -/
def Environment.IsPlain (name : String) : Prop :=
  variableName name = name

theorem Environment.isPlain_of_head {name : String}
    (starts : name.toList.head?.any Lexer.isNameStart) :
    IsPlain name := by
  unfold IsPlain variableName
  split
  · rename_i rest same
    rw [same] at starts
    have dollar : Lexer.isNameStart '$' := starts
    exact absurd dollar (by decide)
  · rfl

namespace Reading

open Environment Grammar

/-- The part of a word in front of its dots starts where the word does. -/
theorem splitDots_head {chars : List Char} (starts : chars.head?.any Lexer.isNameStart) :
    (splitDots chars).1.head?.any Lexer.isNameStart := by
  cases chars with
  | nil => cases starts
  | cons c rest =>
    have first : Lexer.isNameStart c := starts
    have other : c ≠ '.' := by
      rintro rfl
      exact absurd first (by decide)
    rw [splitDots, if_neg other]
    exact first

theorem isWord_of_isReference {t : Token} (names : isReference t) : Lexer.isWord t.kind := by
  unfold isReference at names
  cases kind : t.kind <;> simp [kind, Lexer.isWord] at names ⊢

theorem isWord_of_isBinding {t : Token} (names : isBinding t) : Lexer.isWord t.kind := by
  unfold isBinding at names
  cases kind : t.kind <;> simp [kind, Lexer.isWord] at names ⊢

/-- The names in any source are plain. -/
theorem spelling_plain : Spelling IsPlain (fun _ => True) (fun _ => True) where
  hole _ _ _ _ := trivial
  token _ _ _ _ _ _ _ := trivial
  name _ _ _ _ scanned t member names := by
    have starts := (Lexer.scan_taken scanned t member).word (isWord_of_isReference names)
    refine referenceOf_spelled (isPlain_of_head ?_) fun _ _ => trivial
    rw [String.toList_ofList]
    exact splitDots_head starts
  binding _ _ _ _ scanned t member names :=
    isPlain_of_head ((Lexer.scan_taken scanned t member).word (isWord_of_isBinding names))
  result := isPlain_of_head (by decide)

end Reading

/-- All variables of a program are plain names. -/
theorem plain_of_parseProgram {source : String} {program : Program}
    (parsed : parseProgram source = .ok program) :
    program.Each Environment.IsPlain (Expr.Spelled Environment.IsPlain fun _ => True) :=
  Reading.spelling_plain.program trivial parsed

end BotScript
