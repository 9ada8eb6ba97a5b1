import BotScript.Proofs.Syntax.Faults
import BotScript.Proofs.Syntax.Recognition

/-! From a text to its program. Reading comes to an end, however deep the holes of texts are nested,
and what is wrong with a text stands at a place in it. -/

namespace BotScript

open Template Number

namespace Reading

variable {n : Nat} {α : Type} {reading : Reading n α}

/-- A reading moves on: it leaves a shorter end of its tokens, and where none are left there is a
complaint about the end of the text. -/
def Advances (reading : Reading n α) : Prop :=
  (∀ source parsed, reading source = .ok parsed →
    parsed.left <:+ source.tokens ∧ parsed.left.length < source.tokens.length) ∧
  ∀ source, source.tokens = [] → ∃ problem, reading source = .error (.complaint ⟨problem, none⟩)

theorem Advances.of_inside (inside : Inside reading) : Advances reading := by
  refine ⟨fun source parsed read => ?_, fun source ended => ?_⟩
  · have bounded := inside source
    rw [read] at bounded
    exact ⟨bounded, parsed.shorter⟩
  · have bounded := inside source
    rw [ended] at bounded
    cases result : reading source with
    | ok parsed =>
      have fewer := parsed.shorter
      rw [ended] at fewer
      cases fewer
    | error failure =>
      rw [result] at bounded
      cases failure with
      | complaint wrong =>
        obtain ⟨problem, blamed⟩ := wrong
        cases blamed with
        | none => exact ⟨problem, rfl⟩
        | some t => exact absurd (bounded t rfl) List.not_mem_nil
      | numeral flawed =>
        obtain ⟨t, among, -⟩ := bounded
        cases among with
        | listed member => cases member
        | inside member => cases member

end Reading

/-- What is wrong with a text stands where a piece or a token of it starts, or at its end; or it is
a numeral in it that has a digit without a value or more digits next to each other than are
converted. -/
inductive SyntaxError.Located (source : String) : SyntaxError → Prop
  | piece {front rest : List Char} {c : Char} {problem : LexProblem}
      (starts : Lexer.Starts source.toList front (c :: rest))
      (fails : Lexer.piece c rest = .error problem) :
      Located source (.lexical ⟨problem, Position.start.advance front⟩)
  | token {t : Token} {problem : Problem} (stands : Lexer.StandsIn source.toList .start t) :
      Located source (.grammar ⟨problem, some t⟩ t.position)
  | finish {problem : Problem} :
      Located source (.grammar ⟨problem, none⟩ (Position.start.advance source.toList))
  | numeral {stream : TokenStream} {t : Token} {flawed : Numeral}
      (scanned : tokenize source = .ok stream) (among : t.Among stream.tokens)
      (digits : t.kind = .number) (wrong : Reading.numberOf t = .error (.numeral flawed))
      (flaw : ¬ Convertible t.text.toList) :
      Located source (.numeral flawed)

section

variable {source : String} {stream : TokenStream} {t : Token} {failure : Failure}

/-- A token in some tokens of a text is a token of some text. -/
theorem Token.Among.scanned {chars : List Char} {p : Position} {tokens : List Token}
    (among : t.Among tokens) (scanned : Lexer.scan p chars = .ok stream)
    (same : stream.tokens = tokens) :
    ∃ chars p stream, Lexer.scan p chars = .ok stream ∧ t ∈ stream.tokens := by
  induction among generalizing chars p stream with
  | listed member => exact ⟨chars, p, stream, scanned, same ▸ member⟩
  | inside _ _ deeper _ ih => exact ih deeper rfl

/-- The digits of a numeral without a number cannot be converted. -/
theorem not_convertible_of_numberOf {flawed : Numeral} {chars : List Char} {p : Position}
    (scanned : Lexer.scan p chars = .ok stream) (member : t ∈ stream.tokens)
    (digits : t.kind = .number) (wrong : Reading.numberOf t = .error (.numeral flawed)) :
    ¬ Convertible t.text.toList := by
  intro convertible
  have numeral :=
    (Lexer.scan_taken scanned t member).numeral digits (convertible_iff.mp convertible)
  obtain ⟨value, right⟩ := Reading.numberOf_of_decimal digits (.number digits numeral)
  rw [right] at wrong
  cases wrong

theorem parseProgram_error (scanned : tokenize source = .ok stream)
    (failed : Reading.program stream.tokens = .error failure) :
    parseProgram source = .error (.ofFailure stream.finish failure) := by
  rw [parseProgram, scanned]
  change (Reading.program stream.tokens).mapError _ = _
  rw [failed]
  rfl

theorem parseProgram_ok {whole : Program} (scanned : tokenize source = .ok stream)
    (read : Reading.program stream.tokens = .ok whole) : parseProgram source = .ok whole := by
  rw [parseProgram, scanned]
  change (Reading.program stream.tokens).mapError _ = _
  rw [read]
  rfl

theorem located_of_scan {e : LexError} (failed : tokenize source = .error e) :
    (SyntaxError.lexical e).Located source := by
  obtain ⟨problem, position⟩ := e
  obtain ⟨front, c, rest, starts, fails, place⟩ := Lexer.scan_fails failed
  obtain rfl : position = Position.start.advance front := place
  exact .piece starts fails

theorem located_of_within (scanned : tokenize source = .ok stream)
    (within : failure.Within stream.tokens) :
    (SyntaxError.ofFailure stream.finish failure).Located source := by
  obtain ⟨stand, finish⟩ := Lexer.scan_stands scanned
  cases failure with
  | complaint wrong =>
    obtain ⟨problem, blamed⟩ := wrong
    cases blamed with
    | none =>
      rw [SyntaxError.ofFailure, finish]
      exact .finish
    | some t => exact .token (stand t (within t rfl))
  | numeral flawed =>
    obtain ⟨t, among, digits, wrong⟩ := within
    obtain ⟨_, _, _, inner, member⟩ := among.scanned scanned rfl
    exact .numeral scanned among digits wrong
      (not_convertible_of_numberOf inner member digits wrong)

end

/-- A text is read to an end, and what is wrong with it has its place. What a text in quotes stands
for is made of what its holes stand for, at any depth, since a token in a hole has fewer opening
braces than the text with the hole. Readings move on among their tokens and stop behind the last
one. -/
theorem parse_located (source : String) :
    (∀ t : Token, Reading.template t = Reading.templateWith (Reading.hole Reading.template t) t) ∧
    (∀ (t : Token) chars stream, .hole chars ∈ (cut t.text.toList).parts →
      Lexer.scan .start chars = .ok stream →
      ∀ inner ∈ stream.tokens, openBraces inner.text.toList < openBraces t.text.toList) ∧
    (∀ n, Reading.Advances (Reading.expression Reading.template : Reading n Expr) ∧
      Reading.Advances (Reading.statement : Reading n Stmt) ∧
      (∀ whole word, Reading.Advances (Reading.declaration whole word : Reading n Bot)) ∧
      ∀ kind p, Reading.Advances (Reading.bot kind p : Reading n Bot)) ∧
    (∀ e, parseProgram source = .error e → e.Located source) ∧
    ∀ e, parseExpression source = .error e → e.Located source := by
  refine ⟨Reading.template_fixed, fun _ _ _ => Reading.fewer_braces,
    fun n => ⟨?_, ?_, fun whole word => ?_,
    fun kind p => ?_⟩, fun e failed => ?_, fun e failed => ?_⟩
  · exact .of_inside Reading.expression_bounded
  · exact .of_inside Reading.statement_bounded
  · exact .of_inside (Reading.declaration_bounded whole word)
  · exact .of_inside (Reading.bot_bounded p kind)
  · cases scanned : tokenize source with
    | error lexical =>
      rw [parseProgram, scanned] at failed
      obtain rfl := Except.error.inj failed
      exact located_of_scan scanned
    | ok stream =>
      have bounded := Reading.program_bounded stream.tokens
      cases result : Reading.program stream.tokens with
      | ok whole => cases (parseProgram_ok scanned result).symm.trans failed
      | error failure =>
        rw [result] at bounded
        obtain rfl := Except.error.inj ((parseProgram_error scanned result).symm.trans failed)
        exact located_of_within scanned bounded
  · unfold parseExpression at failed
    cases scanned : tokenize source with
    | error lexical =>
      rw [scanned] at failed
      obtain rfl := Except.error.inj failed
      exact located_of_scan scanned
    | ok stream =>
      rw [scanned] at failed
      have bounded := Reading.expression_bounded (.all stream.tokens)
      cases result : Reading.expression Reading.template (.all stream.tokens) with
      | ok inner => simp [result] at failed
      | error failure =>
        rw [result] at bounded
        obtain rfl : SyntaxError.ofFailure stream.finish failure = e := by
          simpa [result] using failed
        exact located_of_within scanned bounded

/-- A bot that says a text with a hole that is no whole expression. -/
def unfinishedHole : String := "bot b on input say \"sum: \x7b1 == \x7d\" end end"

/-- What is wrong with it: its text in quotes is blamed for the hole. -/
def unfinishedError : SyntaxError :=
  .grammar ⟨.badHole "1 ==" "Expected an expression, found end of input",
    some ⟨.string, "sum: \x7b1 == \x7d", ⟨1, 20⟩⟩⟩
    ⟨1, 20⟩

theorem unfinishedHole_located :
    parseProgram unfinishedHole = .error unfinishedError ∧
    unfinishedError.Located unfinishedHole := by
  -- Programs cannot be compared, so the error is compared with what the result is without its
  -- program.
  have fails : (match parseProgram unfinishedHole with | .ok _ => none | .error e => some e) =
      some unfinishedError := by
    decide +kernel
  cases read : parseProgram unfinishedHole with
  | ok whole => simp [read] at fails
  | error e =>
    obtain rfl : e = unfinishedError := by simpa [read] using fails
    exact ⟨rfl, (parse_located unfinishedHole).2.2.2.1 _ read⟩

/-! ## A program with a long numeral -/

namespace Lexer

variable {finish : Position} {behind : List Char} {tokens : List Token}

/-- The word `say` behind the front of a bot, whatever follows. -/
theorem scan_saying (later : scan ⟨1, 20⟩ behind = .ok ⟨tokens, finish⟩) :
    scan .start ("bot b on input say ".toList ++ behind) =
      .ok ⟨⟨.keyword, "bot", ⟨1, 1⟩⟩ :: ⟨.name, "b", ⟨1, 5⟩⟩ :: ⟨.keyword, "on", ⟨1, 7⟩⟩ ::
        ⟨.keyword, "input", ⟨1, 10⟩⟩ :: ⟨.keyword, "say", ⟨1, 16⟩⟩ :: tokens, finish⟩ := by
  have front : "bot b on input say ".toList ++ behind =
      'b' :: 'o' :: 't' :: ' ' :: 'b' :: ' ' :: 'o' :: 'n' :: ' ' ::
      'i' :: 'n' :: 'p' :: 'u' :: 't' :: ' ' :: 's' :: 'a' :: 'y' :: ' ' :: behind := rfl
  rw [front]
  refine scan_token rfl rfl (scan_blank rfl rfl ?_)
  refine scan_token rfl rfl (scan_blank rfl rfl ?_)
  refine scan_token rfl rfl (scan_blank rfl rfl ?_)
  refine scan_token rfl rfl (scan_blank rfl rfl ?_)
  exact scan_token rfl rfl (scan_blank rfl rfl later)

theorem splitNumber_ones (count : Nat) (behind : List Char) :
    splitNumber (List.replicate count '1' ++ '\n' :: behind) =
      (List.replicate count '1', '\n' :: behind) := by
  have ones : ∀ d ∈ List.replicate count '1', Text.isDigit d := by
    intro d member
    rw [List.eq_of_mem_replicate member]
    decide
  have stop : Text.isDigit '\n' = false := by decide
  simp [splitNumber, List.takeWhile_append_of_pos ones, List.dropWhile_append_of_pos ones, stop,
    splitFraction]

theorem advance_ones (count : Nat) (p : Position) :
    p.advance (List.replicate count '1') = ⟨p.line, p.column + count⟩ := by
  induction count generalizing p with
  | zero => rfl
  | succ count ih =>
    have stepped : p.step '1' = ⟨p.line, p.column + 1⟩ := rfl
    calc p.advance (List.replicate (count + 1) '1')
      _ = (p.step '1').advance (List.replicate count '1') := rfl
      _ = ⟨p.line, p.column + 1 + count⟩ := by rw [ih, stepped]
      _ = ⟨p.line, p.column + (count + 1)⟩ := by rw [Nat.add_assoc, Nat.add_comm 1]

/-- A line of ones behind another one is a number. -/
theorem scan_ones (count : Nat)
    (later : scan (.step ⟨1, 21 + count⟩ '\n') behind = .ok ⟨tokens, finish⟩) :
    scan ⟨1, 20⟩ ('1' :: (List.replicate count '1' ++ '\n' :: behind)) =
      .ok ⟨⟨.number, String.ofList ('1' :: List.replicate count '1'), ⟨1, 20⟩⟩ ::
        tokens, finish⟩ := by
  have split := splitNumber_ones count behind
  have lexeme : (number '1' (List.replicate count '1' ++ '\n' :: behind)).lexeme =
    '1' :: List.replicate count '1' :=
    congrArg (fun parts : List Char × List Char => '1' :: parts.1) split
  have rest : (number '1' (List.replicate count '1' ++ '\n' :: behind)).rest = '\n' :: behind :=
    congrArg Prod.snd split
  have place : Position.advance ⟨1, 20⟩ ('1' :: List.replicate count '1') = ⟨1, 21 + count⟩ :=
    advance_ones count ⟨1, 21⟩
  have fits (rest : List Char) : piece '1' rest = .ok (number '1' rest) := rfl
  refine scan_token (fits _) (congrArg (fun chars => some (TokenKind.number, chars)) lexeme) ?_
  rw [lexeme, rest, place]
  exact scan_blank rfl rfl later

end Lexer

/-- The text of a bot that says a numeral with one more digit than is converted. -/
def longProgram : List Char :=
  "bot b on input say ".toList ++
    ('1' :: (List.replicate digitLimit '1' ++ '\n' :: "end end".toList))

theorem scan_longProgram : Lexer.scan .start longProgram =
    .ok ⟨Reading.answering [⟨.keyword, "say", ⟨1, 16⟩⟩, Reading.longNumeral], ⟨2, 8⟩⟩ := by
  have ends : Lexer.scan ⟨2, 1⟩ "end end".toList =
      .ok ⟨[⟨.keyword, "end", ⟨2, 1⟩⟩, ⟨.keyword, "end", ⟨2, 5⟩⟩], ⟨2, 8⟩⟩ := by decide +kernel
  exact Lexer.scan_saying (Lexer.scan_ones digitLimit ends)

theorem longProgram_decimal : ∀ c ∈ longProgram, Text.isDigit c → isDecimal c := by
  have valued {chars : List Char}
      (all : (chars.all fun c => !Text.isDigit c || isDecimal c) = true) :
      ∀ c ∈ chars, Text.isDigit c → isDecimal c := fun c listed digit => by
    simpa [digit] using List.all_eq_true.mp all c listed
  have front : ∀ c ∈ "bot b on input say ".toList, Text.isDigit c → isDecimal c :=
    valued (by decide)
  have back : ∀ c ∈ '\n' :: "end end".toList, Text.isDigit c → isDecimal c := valued (by decide)
  have one : isDecimal '1' := by decide
  unfold longProgram
  generalize digitLimit = count
  intro c member
  rcases List.mem_append.mp member with listed | rest
  · exact front c listed
  rcases List.mem_cons.mp rest with rfl | rest
  · exact fun _ => one
  rcases List.mem_append.mp rest with listed | listed
  · rw [List.eq_of_mem_replicate listed]
    exact fun _ => one
  · exact back c listed

/-- A text whose digits all have values may be no program without an error that has a place. -/
theorem longProgram_flawed :
    (∀ c ∈ (String.ofList longProgram).toList, Text.isDigit c → isDecimal c) ∧
      ∃ flawed, parseProgram (String.ofList longProgram) = .error (.numeral flawed) := by
  have scanned : tokenize (String.ofList longProgram) =
      .ok ⟨Reading.answering [⟨.keyword, "say", ⟨1, 16⟩⟩, Reading.longNumeral], ⟨2, 8⟩⟩ := by
    rw [tokenize, String.toList_ofList, scan_longProgram]
  obtain ⟨flawed, wrong⟩ :=
    Reading.numberOf_of_many Reading.longNumeral_digits Reading.longNumeral_many
  refine ⟨?_, flawed, parseProgram_error scanned (Reading.program_numeral rfl wrong)⟩
  rw [String.toList_ofList]
  exact longProgram_decimal

end BotScript
