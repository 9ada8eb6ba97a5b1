import BotScript.Proofs.Syntax.Holes
import BotScript.Proofs.Syntax.Lexemes
import BotScript.Proofs.Syntax.Recognition

/-! Texts written as literals. A literal is escaped for two readers: the lexer takes line ends and
quotes back, and the cut at the holes takes back the backslashes in front of braces and of each
other. Whatever a text holds, its literal is one token and stands for the text itself. -/

namespace BotScript

namespace Template

/-- A character as it has to stand in the text of a token, where it is not to open a hole. -/
def hide (c : Char) : List Char :=
  if isHidden c then ['\\', c] else [c]

theorem cut_hide (c : Char) (more : List Char) : cut (hide c ++ more) = (cut more).push c := by
  unfold hide
  split
  · rename_i hidden
    rw [List.cons_append, List.cons_append, List.nil_append, cut.eq_def]
    simp [hidden]
  · rename_i bare
    simp only [isHidden, Bool.or_eq_true, decide_eq_true_eq, not_or] at bare
    rw [List.singleton_append, cut.eq_def]
    simp [bare]

/-- Where all characters are hidden there are no holes. -/
theorem cut_hidden (chars : List Char) : cut (chars.flatMap hide) = ⟨literalPart chars, none⟩ := by
  have pushed : cut (chars.flatMap hide) = chars.foldr (fun c all => all.push c) ⟨[], none⟩ := by
    induction chars with
    | nil => rw [List.flatMap_nil, cut, List.foldr_nil]
    | cons c chars ih => rw [List.flatMap_cons, cut_hide, ih, List.foldr_cons]
  rw [pushed, foldr_push (by simp), List.append_nil]

end Template

namespace Lexer

open Template (hide isHidden)

variable {quote : Char} {chars value behind : List Char}

/-- A character as it is written between quotes. -/
def escape (quote c : Char) : List Char :=
  if c = '\\' || c = '{' || c = '}' || c = quote then ['\\', c]
  else if c = '\n' then ['\\', 'n']
  else [c]

/-- A text as it is written in a program. -/
def literal (quote : Char) (s : String) : String :=
  String.ofList (quote :: (s.toList.flatMap (escape quote) ++ [quote]))

/-- An escaped character is kept by the lexer as the cut at the holes wants it. -/
theorem escape_quoted (quotes : quote = '"' ∨ quote = '\'') (c : Char)
    (later : Quoted quote chars value) :
    Quoted quote (escape quote c ++ chars) (hide c ++ value) := by
  unfold escape
  split
  · rename_i marked
    have kept : hide c = escapeValue c := by
      simp only [Bool.or_eq_true, decide_eq_true_eq] at marked
      rcases marked with ((rfl | rfl) | rfl) | rfl
      · decide
      · decide
      · decide
      · rcases quotes with rfl | rfl <;> decide
    rw [kept]
    exact .escape c later
  · rename_i unmarked
    simp only [Bool.or_eq_true, decide_eq_true_eq, not_or] at unmarked
    obtain ⟨⟨⟨bare, opens⟩, closes⟩, unquoted⟩ := unmarked
    split
    · rename_i line
      obtain rfl := line
      exact .escape 'n' later
    · rename_i line
      have plain : hide c = [c] := by simp [hide, isHidden, bare, opens, closes]
      rw [plain]
      exact .plain unquoted bare line later

theorem escaped_quoted (quotes : quote = '"' ∨ quote = '\'') (chars : List Char) :
    Quoted quote (chars.flatMap (escape quote)) (chars.flatMap hide) := by
  induction chars with
  | nil => exact .none
  | cons c chars ih => exact escape_quoted quotes c ih

/-- An escaped character does not start with the quote. -/
theorem escape_head (quotes : quote = '"' ∨ quote = '\'') (c : Char) :
    ∃ d more, escape quote c = d :: more ∧ d ≠ quote := by
  have bare := (quote_plain quotes).1.symm
  unfold escape
  split
  · exact ⟨'\\', [c], rfl, bare⟩
  · rename_i unmarked
    split
    · exact ⟨'\\', ['n'], rfl, bare⟩
    · exact ⟨c, [], rfl, fun same => unmarked (by simp [same])⟩

/-- A literal does not start like a block, unless it is empty and a quote follows it. -/
theorem escaped_line (quotes : quote = '"' ∨ quote = '\'')
    (apart : chars = [] → behind.head? ≠ some quote) :
    ¬ [quote, quote] <+: chars.flatMap (escape quote) ++ quote :: behind := by
  rintro ⟨more, same⟩
  cases chars with
  | nil =>
    have front : quote :: more = behind := (List.cons.inj same).2
    exact apart rfl (by rw [← front, List.head?_cons])
  | cons c chars =>
    obtain ⟨d, others, first, different⟩ := escape_head quotes c
    rw [List.flatMap_cons, first] at same
    exact different (List.cons.inj same).1.symm

/-- A literal is a token wherever it stands, and the token ends with its closing quote. -/
theorem literal_spells (quotes : quote = '"' ∨ quote = '\'')
    (apart : chars = [] → behind.head? ≠ some quote) :
    Spells (quote :: (chars.flatMap (escape quote) ++ quote :: behind)) .string (chars.flatMap hide)
      (quote :: (chars.flatMap (escape quote) ++ [quote])) behind :=
  .string quotes (fun double => double ▸ escaped_line quotes apart)
  ((escaped_quoted quotes chars).contents? quotes behind)

/-- A literal alone is one token. -/
theorem tokenize_literal (quotes : quote = '"' ∨ quote = '\'') (s : String) :
    tokenize (literal quote s) =
      .ok ⟨[⟨.string, String.ofList (s.toList.flatMap hide), .start⟩],
        Position.start.advance (literal quote s).toList⟩ := by
  have apart : ([] : List Char).head? ≠ some quote := by simp
  have spells := literal_spells quotes fun (_ : s.toList = []) => apart
  obtain ⟨found, fits, token, rest⟩ := spells.piece
  have lexeme : found.lexeme = (literal quote s).toList := by
    rw [spells.lexeme_eq fits, literal, String.toList_ofList]
  have finished : scan (Position.start.advance found.lexeme) found.rest =
      .ok ⟨[], Position.start.advance found.lexeme⟩ := by
    rw [rest, scan]
  rw [← lexeme, tokenize, literal, String.toList_ofList]
  exact scan_token fits token finished

end Lexer

namespace Reading

open Grammar Template

theorem templateWith_literal {hole : List Char → Except Failure Expr} {token : Token} {s : String}
    (cutting : cut token.text.toList = ⟨literalPart s.toList, none⟩) :
    templateWith hole token = .ok (.literal (.text s) token.position) := by
  have finished : segments hole [] = .ok [] := rfl
  have all := segments_literal finished s
  rw [List.append_nil, List.append_nil] at all
  unfold templateWith
  rw [cutting]
  dsimp only
  rw [all]
  unfold literalSegment
  split
  · rename_i empty
    rw [String.isEmpty_iff.mp empty]
    rfl
  · rfl

/-- What is written between quotes is read as it was: the literal of a text is one token that takes
up its whole source, it is read as the text itself, with no holes in it, and evaluating or saying
that gives the text in every environment. -/
theorem literal_reads_back {quote : Char} (quotes : quote = '"' ∨ quote = '\'') (s : String) :
    ∃ chars e, tokenize (Lexer.literal quote s) =
        .ok ⟨[⟨.string, chars, .start⟩], Position.start.advance (Lexer.literal quote s).toList⟩ ∧
      parseExpression (Lexer.literal quote s) =
        .ok (e, ⟨[], Position.start.advance (Lexer.literal quote s).toList⟩) ∧
      e = .literal (.text s) .start ∧ ∀ env, e.evaluate env = .ok (.text s) ∧
        e.render env = .ok s := by
  have scanned := Lexer.tokenize_literal quotes s
  have operand : Grammar.Expression template .operand
      [⟨.string, String.ofList (s.toList.flatMap hide), .start⟩]
      (.literal (.text s) .start) [] := by
    refine .string rfl ?_
    rw [template_fixed]
    exact templateWith_literal (by rw [String.toList_ofList, cut_hidden])
  have whole : IsExpression _ _ := operand.term
  exact ⟨_, _, scanned, whole.parse scanned, rfl, fun env => ⟨rfl, rfl⟩⟩

/-- A text with everything in it that a literal has to escape, and a backslash at its end. -/
def tricky : String :=
  "C:\\new\n\x7bit's \"here\"\x7d\\"

theorem tricky_reads_back :
    Lexer.literal '"' tricky = "\"C:\\\\new\\n\\\x7bit's \\\"here\\\"\\\x7d\\\\\"" ∧
    ('"' = '"' ∨ '"' = '\'') ∧ ∃ finish e,
      parseExpression (Lexer.literal '"' tricky) = .ok (e, ⟨[], finish⟩) ∧
      e.render .empty = .ok tricky := by
  obtain ⟨chars, e, -, read, -, values⟩ := literal_reads_back (.inl rfl) tricky
  exact ⟨by decide +kernel, .inl rfl, _, e, read, (values .empty).2⟩

end Reading

end BotScript
