import BotScript.Proofs.Syntax.Lexemes
import BotScript.Proofs.Syntax.Variables

/-! The variables of a program are identifiers: they are made of letters, digits and underscores. A
name token may have dots in it, but only a name without dots can be declared or bound, and what is
read of a dotted name as a variable is the part in front of its first dot. -/

namespace BotScript

namespace Lexer

variable {chars : List Char} {source : List Char}

/-- A name without dots. -/
structure IsIdentifier (chars : List Char) : Prop where
  starts : chars.head?.any isNameStart
  named : ∀ c ∈ chars, isNameChar c

/-- Words are written as names. -/
theorem Lexeme.word_name {kind : TokenKind} {lexeme : List Char}
    (written : Lexeme kind chars lexeme) (word : isWord kind) :
    IsName chars := by
  cases written with
  | keyword name _ | name name _ | dollarName name => exact name
  | number | operator | string | block => cases word
  | symbol means =>
    rw [(punctuation?_other means).2] at word
    cases word

theorem scan_word {position : Position} {stream : TokenStream}
    (scanned : scan position source = .ok stream) :
    ∀ t ∈ stream.tokens, isWord t.kind → IsName t.text.toList := by
  have read := scanned_of_scan scanned
  clear scanned
  induction read with
  | done => exact List.forall_mem_nil _
  | blank _ _ _ ih => exact ih
  | @token p finish c rest chars kind found tokens fits token later ih =>
    refine List.forall_mem_cons.mpr ⟨fun word => ?_, ih⟩
    rw [String.toList_ofList]
    exact (piece_spells fits token).toLexeme.word_name word

theorem IsDotted.identifier (dotted : IsDotted chars) (starts : chars.head?.any isNameStart)
    (undotted : '.' ∉ chars) :
    IsIdentifier chars := by
  cases dotted with
  | run _ named => exact ⟨starts, named⟩
  | dot _ _ _ => exact absurd (List.mem_append_right _ List.mem_cons_self) undotted

/-- The part of a dotted name in front of its first dot. -/
theorem IsDotted.splitDots_named (dotted : IsDotted chars) :
    ∀ c ∈ (Reading.splitDots chars).1, isNameChar c := by
  have front (run more : List Char) (named : ∀ c ∈ run, isNameChar c)
      (ended : more = [] ∨ ∃ rest, more = '.' :: rest) :
      ∀ c ∈ (Reading.splitDots (run ++ more)).1, isNameChar c := by
    induction run with
    | nil =>
      rcases ended with rfl | ⟨rest, rfl⟩
      · exact List.forall_mem_nil _
      · rw [List.nil_append, Reading.splitDots, if_pos rfl]
        exact List.forall_mem_nil _
    | cons d run ih =>
      obtain ⟨first, others⟩ := List.forall_mem_cons.mp named
      rw [List.cons_append, Reading.splitDots]
      split
      · exact List.forall_mem_nil _
      · exact List.forall_mem_cons.mpr ⟨first, ih others⟩
  cases dotted with
  | run _ named =>
    have parts := front chars [] named (.inl rfl)
    rwa [List.append_nil] at parts
  | @dot run rest _ named _ => exact front run ('.' :: rest) named (.inr ⟨rest, rfl⟩)

/-- No mark of the language stands in an identifier. -/
theorem IsIdentifier.unmarked (identifier : IsIdentifier chars) {c : Char} (mark : c ∈ marks) :
    c ∉ chars :=
  fun member => word_unmarked (.inl (identifier.named c member)) mark

end Lexer

namespace Reading

open Grammar Lexer

/-- The names in any source are identifiers. -/
theorem spelling_identifier :
    Spelling (fun name => IsIdentifier name.toList) (fun _ => True) (fun _ => True) where
  hole _ _ _ _ := trivial
  token _ _ _ _ _ _ _ := trivial
  name _ _ _ _ scanned t member names := by
    have name := scan_word scanned t member (isWord_of_isReference names)
    refine referenceOf_spelled ?_ fun _ _ => trivial
    rw [String.toList_ofList]
    exact ⟨splitDots_head name.starts, name.dotted.splitDots_named⟩
  binding _ _ _ _ scanned t member names := by
    have name := scan_word scanned t member (isWord_of_isBinding names)
    refine name.dotted.identifier name.starts fun dot => ?_
    have dotted : t.isDotted = true := List.contains_iff_mem.mpr dot
    simp [isBinding, dotted] at names
  result := ⟨by decide, List.all_eq_true.mp (by decide)⟩

end Reading

/-- All variables of a program are identifiers. -/
theorem identifiers_of_parseProgram {source : String} {program : Program}
    (parsed : parseProgram source = .ok program) :
    program.Each (fun name => Lexer.IsIdentifier name.toList)
      (Expr.Spelled (fun name => Lexer.IsIdentifier name.toList) fun _ => True) :=
  Reading.spelling_identifier.program trivial parsed

end BotScript
