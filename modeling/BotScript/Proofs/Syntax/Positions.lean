import BotScript.Syntax.Lexer

/-! Where the pieces of a text start. A text is cut into pieces from its front on, and its tokens
are read off them; every token has the position of the piece that it is, and an error has that of
the first piece which nothing fits. -/

namespace BotScript.Lexer

variable {source front back rest chars : List Char} {c : Char} {p finish : Position} {t : Token}
  {kind : TokenKind}
  {tokens : List Token} {stream : TokenStream}

/-- A text that starts at a position has some tokens: none in its blanks and comments, and one for
every other piece. -/
inductive Scanned : Position → List Char → TokenStream → Prop
  | done (p : Position) : Scanned p [] ⟨[], p⟩
  | blank {p finish : Position} {c : Char} {rest : List Char} {found : Piece (c :: rest)}
      {tokens : List Token} (fits : piece c rest = .ok found) (blank : found.token = none)
      (later : Scanned (p.advance found.lexeme) found.rest ⟨tokens, finish⟩) :
      Scanned p (c :: rest) ⟨tokens, finish⟩
  | token {p finish : Position} {c : Char} {rest chars : List Char} {kind : TokenKind}
      {found : Piece (c :: rest)} {tokens : List Token} (fits : piece c rest = .ok found)
      (token : found.token = some (kind, chars))
      (later : Scanned (p.advance found.lexeme) found.rest ⟨tokens, finish⟩) :
      Scanned p (c :: rest) ⟨⟨kind, String.ofList chars, p⟩ :: tokens, finish⟩

/-- The lexer finds the tokens of a text. -/
theorem scanned_of_scan (scanned : scan p source = .ok stream) : Scanned p source stream := by
  fun_induction scan p source generalizing stream with
  | case1 p =>
    obtain rfl := Except.ok.inj scanned
    exact .done p
  | case2 => cases scanned
  | case3 p c rest found fits ih =>
    cases later : scan (p.advance found.lexeme) found.rest with
    | error e =>
      rw [later] at scanned
      cases scanned
    | ok others =>
      rw [later] at scanned
      cases token : found.token with
      | none =>
        rw [token] at scanned
        obtain rfl := Except.ok.inj scanned
        exact .blank fits token (ih later)
      | some pair =>
        rw [token] at scanned
        obtain rfl := Except.ok.inj scanned
        exact .token fits token (ih later)

/-- A blank or a comment leaves no token. -/
theorem scan_skip {found : Piece (c :: rest)} (fits : piece c rest = .ok found)
    (blank : found.token = none) :
    scan p (c :: rest) = scan (p.advance found.lexeme) found.rest := by
  rw [scan, fits]
  dsimp only
  rw [blank]
  exact bind_pure _

theorem scan_take {found : Piece (c :: rest)} (fits : piece c rest = .ok found)
    (token : found.token = some (kind, chars)) :
    scan p (c :: rest) = (scan (p.advance found.lexeme) found.rest).map fun stream =>
      { stream with tokens := ⟨kind, String.ofList chars, p⟩ :: stream.tokens } := by
  rw [scan, fits]
  dsimp only
  rw [token]
  rfl

theorem scan_blank {found : Piece (c :: rest)} (fits : piece c rest = .ok found)
    (blank : found.token = none)
    (later : scan (p.advance found.lexeme) found.rest = .ok ⟨tokens, finish⟩) :
    scan p (c :: rest) = .ok ⟨tokens, finish⟩ :=
  (scan_skip fits blank).trans later

theorem scan_token {found : Piece (c :: rest)} (fits : piece c rest = .ok found)
    (token : found.token = some (kind, chars))
    (later : scan (p.advance found.lexeme) found.rest = .ok ⟨tokens, finish⟩) :
    scan p (c :: rest) = .ok ⟨⟨kind, String.ofList chars, p⟩ :: tokens, finish⟩ := by
  rw [scan_take fits token, later]
  rfl

/-- Some pieces make up the front of a text, and the next one starts behind them. -/
inductive Starts : List Char → List Char → List Char → Prop
  | first (source : List Char) : Starts source [] source
  | next {c : Char} {rest front behind : List Char} {found : Piece (c :: rest)}
      (fits : piece c rest = .ok found) (later : Starts found.rest front behind) :
      Starts (c :: rest) (found.lexeme ++ front) behind

/-- A token is a piece of a text and has the position of its first character; the text itself starts
at a position. -/
inductive StandsIn (source : List Char) (p : Position) : Token → Prop
  | here {c : Char} {rest front chars : List Char} {kind : TokenKind} {found : Piece (c :: rest)}
      (starts : Starts source front (c :: rest)) (fits : piece c rest = .ok found)
      (token : found.token = some (kind, chars)) :
      StandsIn source p ⟨kind, String.ofList chars, p.advance front⟩

/-- What stands behind a piece stands in the whole text. -/
theorem StandsIn.behind {found : Piece (c :: rest)} (fits : piece c rest = .ok found)
    (stands : StandsIn found.rest (p.advance found.lexeme) t) : StandsIn (c :: rest) p t := by
  obtain ⟨starts, inner, token⟩ := stands
  rw [← Position.advance_append]
  exact .here (.next fits starts) inner token

/-- Every token stands where it starts, and the tokens end where the text does. -/
theorem scan_stands (scanned : scan p source = .ok stream) :
    (∀ t ∈ stream.tokens, StandsIn source p t) ∧ stream.finish = p.advance source := by
  have read := scanned_of_scan scanned
  clear scanned
  induction read with
  | done p => exact ⟨List.forall_mem_nil _, rfl⟩
  | @blank p finish c rest found tokens fits blank later ih =>
    obtain ⟨stand, ends⟩ := ih
    refine ⟨fun t member => (stand t member).behind fits, ?_⟩
    rw [ends, ← Position.advance_append, found.whole]
  | @token p finish c rest chars kind found tokens fits token later ih =>
    obtain ⟨stand, ends⟩ := ih
    refine ⟨List.forall_mem_cons.mpr
      ⟨.here (.first _) fits token, fun t member => (stand t member).behind fits⟩, ?_⟩
    rw [ends, ← Position.advance_append, found.whole]

/-- An error stands at the first piece that nothing fits. -/
theorem scan_fails {e : LexError} (failed : scan p source = .error e) :
    ∃ front c rest, Starts source front (c :: rest) ∧ piece c rest = .error e.problem ∧
      e.position = p.advance front := by
  fun_induction scan p source with
  | case1 => cases failed
  | case2 p c rest problem fails =>
    obtain rfl := Except.error.inj failed
    exact ⟨[], c, rest, .first _, fails, rfl⟩
  | case3 p c rest found fits ih =>
    cases later : scan (p.advance found.lexeme) found.rest with
    | error other =>
      rw [later] at failed
      obtain rfl := Except.error.inj failed
      obtain ⟨front, d, behind, starts, fails, place⟩ := ih later
      refine ⟨found.lexeme ++ front, d, behind, .next fits starts, fails, ?_⟩
      rw [place, Position.advance_append]
    | ok others =>
      rw [later] at failed
      cases token : found.token <;> rw [token] at failed <;> cases failed

end BotScript.Lexer
