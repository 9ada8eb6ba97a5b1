import BotScript.Proofs.Syntax.Margins
import BotScript.Proofs.Syntax.Tiling

/-! Texts over several lines. What the lexer has read at the front of a text does not change when
another line is put behind the text, for no token or comment that is complete looks across the end
of a line. So lines can be added to a text that has tokens without a look at it: the new tokens, or
the error among them, are those of the new lines alone, further down. -/

namespace BotScript

/-! ## Further down -/

/-- A place in a text that some lines are put in front of. -/
def Position.down (lines : Nat) (p : Position) : Position :=
  { p with line := p.line + lines }

def Token.down (lines : Nat) (t : Token) : Token :=
  { t with position := t.position.down lines }

def TokenStream.down (lines : Nat) (stream : TokenStream) : TokenStream :=
  ⟨stream.tokens.map (Token.down lines), stream.finish.down lines⟩

def LexError.down (lines : Nat) (e : LexError) : LexError :=
  { e with position := e.position.down lines }

theorem Position.advance_down (lines : Nat) (p : Position) (chars : List Char) :
    (p.down lines).advance chars = (p.advance chars).down lines := by
  have step (p : Position) (c : Char) : (p.down lines).step c = (p.step c).down lines := by
    unfold Position.step Position.down
    split
    · rw [Nat.add_right_comm]
    · rfl
  induction chars generalizing p with
  | nil => rfl
  | cons c chars ih =>
    have first := congrArg (Position.advance · chars) (step p c)
    exact first.trans (ih (p.step c))

namespace Lexer

/-- The lexer does not look at the line where a text starts. -/
theorem scan_down (lines : Nat) (p : Position) (source : List Char) :
    scan (p.down lines) source = ((scan p source).map (TokenStream.down lines)).mapError
      (LexError.down lines) := by
  fun_induction scan p source with
  | case1 p =>
    rw [scan]
    rfl
  | case2 p c rest problem fails =>
    rw [scan, fails]
    rfl
  | case3 p c rest found fits ih =>
    cases token : found.token with
    | none =>
      rw [scan_skip fits token, Position.advance_down, ih]
      cases scan (p.advance found.lexeme) found.rest <;> rfl
    | some pair =>
      rw [scan_take fits token, Position.advance_down, ih]
      cases scan (p.advance found.lexeme) found.rest <;> rfl

/-! ## One line behind another -/

section

variable {c quote : Char} {mark source rest before behind chars lexeme : List Char}
  {kind : TokenKind} {inner : Contents}

/-- The first closing mark stays the first. -/
theorem splitAtMark?_append (marked : mark ≠ [])
    (closed : splitAtMark? mark source = some (before, behind)) (more : List Char) :
    splitAtMark? mark (source ++ more) = some (before, behind ++ more) := by
  obtain ⟨whole, first⟩ := (splitAtMark?_iff marked).mp closed
  refine (splitAtMark?_iff marked).mpr ⟨?_, first⟩
  rw [whole, List.append_assoc, List.append_assoc]

theorem contents?_append (quotes : quote = '"' ∨ quote = '\'')
    (closed : contents? quote source = some inner) (more : List Char) :
    contents? quote (source ++ more) = some { inner with rest := inner.rest ++ more } := by
  obtain ⟨chars, raw, quoted⟩ := contents?_quoted closed
  have whole : source ++ more = chars ++ quote :: (inner.rest ++ more) := by
    rw [← contents?_whole closed, raw]
    simp
  rw [whole, quoted.contents? quotes, ← raw]

/-- What does not reach the end of the line does not look across it. -/
theorem prefix_before_line (plain : '\n' ∉ mark) {more : List Char}
    (starts : mark <+: rest ++ '\n' :: more) :
    mark <+: rest := by
  rcases List.prefix_or_prefix_of_prefix starts (List.prefix_append rest _) with
    short | ⟨behind, rfl⟩
  · exact short
  · have reaches : behind <+: '\n' :: more := (List.prefix_append_right_inj rest).mp starts
    cases behind with
    | nil => simp
    | cons b behind =>
      obtain ⟨others, same⟩ := reaches
      obtain ⟨rfl, -⟩ := List.cons.inj same
      exact absurd (List.mem_append_right rest List.mem_cons_self) plain

/-- A token stays the same when its text goes on in another line. -/
theorem Spells.before_line (spells : Spells source kind chars lexeme behind) (more : List Char) :
    Spells (source ++ '\n' :: more) kind chars lexeme (behind ++ '\n' :: more) := by
  have apart : ∀ b ∈ ('\n' :: more).head?, Text.isBlank b := by
    intro b first
    obtain rfl := Option.some.inj first
    decide
  cases spells with
  | block closed => exact .block (splitAtMark?_append (List.cons_ne_nil _ _) closed _)
  | string quotes line closed =>
    -- An empty text at the end of its line does not become the start of a block.
    exact .string quotes (fun double block => line double (prefix_before_line (by decide) block))
      (contents?_append quotes closed _)
  | @dollarName rest starts =>
    have spells := @Spells.dollarName (rest ++ '\n' :: more)
    rw [splitName_apart apart, head?_any_apart apart fun b blank =>
      unstarted_of_blank blank] at spells
    exact spells starts
  | @number c rest first =>
    have spells := @Spells.number c (rest ++ '\n' :: more)
    rw [splitNumber_apart apart, digitFollows_apart apart] at spells
    exact spells first
  | @name c rest first other =>
    have spells := @Spells.name c (rest ++ '\n' :: more)
    rw [splitName_apart apart] at spells
    exact spells first other
  | symbol means => exact .symbol means
  | double pair => exact .double pair
  | @single c _ one alone =>
    have spells := @Spells.single c (behind ++ '\n' :: more) one
    rw [head?_any_apart apart fun d blank => isPair_blank blank] at spells
    exact spells alone

theorem Skips.before_line (skips : Skips source lexeme behind) (more : List Char) :
    Skips (source ++ '\n' :: more) lexeme (behind ++ '\n' :: more) := by
  cases skips with
  | blank space => exact .blank space
  | line rest =>
    have ends : ∀ b ∈ ('\n' :: more).head?, decide (b ≠ '\n') = false := by simp
    have skips := Skips.line (rest ++ '\n' :: more)
    rw [(while_before ends rest).1, (while_before ends rest).2] at skips
    exact skips
  | block closed => exact .block (splitAtMark?_append (List.cons_ne_nil _ _) closed _)

/-- A piece is found again when its text goes on in another line, with the same token. -/
theorem piece_before_line {found : Piece (c :: rest)} (fits : piece c rest = .ok found)
    (more : List Char) :
    ∃ again, piece c (rest ++ '\n' :: more) = .ok again ∧ again.token = found.token ∧
      again.lexeme = found.lexeme ∧
      again.rest = found.rest ++ '\n' :: more := by
  have whole : found.lexeme ++ (found.rest ++ '\n' :: more) = c :: (rest ++ '\n' :: more) := by
    rw [← List.append_assoc, found.whole, List.cons_append]
  cases token : found.token with
  | none =>
    obtain ⟨again, same, blank, ends⟩ := ((piece_skips fits token).before_line more).piece
    exact ⟨again, same, blank, again.lexeme_eq ends whole, ends⟩
  | some pair =>
    obtain ⟨kind, chars⟩ := pair
    obtain ⟨again, same, word, ends⟩ := ((piece_spells fits token).before_line more).piece
    exact ⟨again, same, word, again.lexeme_eq ends whole, ends⟩

end

theorem Scanned.before_line {p : Position} {source : List Char} {stream : TokenStream}
    (scanned : Scanned p source stream) (more : List Char) : scan p (source ++ '\n' :: more) =
      (scan stream.finish ('\n' :: more)).map fun others =>
        { others with tokens := stream.tokens ++ others.tokens } := by
  induction scanned with
  | done p =>
    rw [List.nil_append]
    cases scan p ('\n' :: more) <;> rfl
  | @blank p finish c rest found tokens fits blank later ih =>
    obtain ⟨again, same, token, lexeme, ends⟩ := piece_before_line fits more
    rw [List.cons_append, scan_skip same (token.trans blank), lexeme, ends, ih]
  | @token p finish c rest chars kind found tokens fits word later ih =>
    obtain ⟨again, same, token, lexeme, ends⟩ := piece_before_line fits more
    rw [List.cons_append, scan_take same (token.trans word), lexeme, ends, ih]
    cases scan finish ('\n' :: more) <;> rfl

end Lexer

/-- The lines of a text; the last of them may be empty. -/
def lineCount (source : String) : Nat :=
  source.toList.count '\n' + 1

theorem finish_line {source : String} {stream : TokenStream}
    (scanned : tokenize source = .ok stream) :
    stream.finish.line = lineCount source := by
  have ends : stream.finish = (Position.behind []).advance source.toList :=
    (Lexer.scan_stands scanned).2
  rw [ends, Position.advance_behind]
  rfl

/-- Texts are read line by line: behind the tokens of a text stand those of the lines that are added
to it, or the error that is found there, as they are found in these lines alone, only further
down. -/
theorem tokenize_lines {source : String} {stream : TokenStream}
    (scanned : tokenize source = .ok stream) (more : String) :
    tokenize (source ++ "\n" ++ more) =
      match tokenize more with
      | .ok others => .ok {
          tokens := stream.tokens ++ others.tokens.map (Token.down (lineCount source))
          finish := others.finish.down (lineCount source) }
      | .error e => .error (e.down (lineCount source)) := by
  have whole : (source ++ "\n" ++ more).toList = source.toList ++ '\n' :: more.toList := by simp
  have next : Lexer.scan stream.finish ('\n' :: more.toList) =
      Lexer.scan (Position.start.down (lineCount source)) more.toList := by
    have start : stream.finish.advance ['\n'] = Position.start.down stream.finish.line :=
      congrArg (Position.mk · 1) (Nat.add_comm ..)
    rw [← finish_line scanned, ← start]
    exact Lexer.scan_skip (Lexer.piece_space (by decide)) rfl
  unfold tokenize
  rw [whole, (Lexer.scanned_of_scan scanned).before_line, next, Lexer.scan_down]
  cases Lexer.scan .start more.toList <;> rfl

/-- A text that ends in an empty text, which another quote behind it would turn into the start of a
block. -/
def emptyAnswer : String :=
  "/* none\n*/ say \"\""

def emptyAnswerTokens : TokenStream where
  tokens := [⟨.keyword, "say", ⟨2, 4⟩⟩, ⟨.string, "", ⟨2, 8⟩⟩]
  finish := ⟨2, 10⟩

/-- A quote in the next line opens a text of its own, and an error behind it is found there. -/
theorem emptyAnswer_lines : tokenize emptyAnswer = .ok emptyAnswerTokens ∧
    tokenize (emptyAnswer ++ "\n" ++ "\"x\" #") =
      .ok ⟨emptyAnswerTokens.tokens ++ [⟨.string, "x", ⟨3, 1⟩⟩], ⟨3, 6⟩⟩ ∧
    tokenize (emptyAnswer ++ "\n" ++ "\"x\"\n $") = .error ⟨.bareDollar, ⟨4, 2⟩⟩ := by
  have scanned : tokenize emptyAnswer = .ok emptyAnswerTokens := by decide +kernel
  have added : tokenize "\"x\" #" = .ok ⟨[⟨.string, "x", ⟨1, 1⟩⟩], ⟨1, 6⟩⟩ := by decide +kernel
  have failing : tokenize "\"x\"\n $" = .error ⟨.bareDollar, ⟨2, 2⟩⟩ := by decide +kernel
  refine ⟨scanned, ?_, ?_⟩
  · rw [tokenize_lines scanned, added]
    rfl
  · rw [tokenize_lines scanned, failing]
    rfl

end BotScript
