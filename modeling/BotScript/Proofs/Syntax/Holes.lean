import BotScript.Proofs.Layout.Statements
import BotScript.Proofs.Syntax.Blame
import BotScript.Proofs.Syntax.Balance
import BotScript.Proofs.Syntax.Margins
import BotScript.Proofs.Syntax.Programs

/-! Where holes end. The search for the end of a hole knows no tokens, only quotes and braces. It
goes over every token that is no block, and comes out with the braces that the token leaves open; so
in front of the closing brace of a hole it has gone over a whole expression and no further. -/

namespace BotScript

namespace Template

open Lexer (contents? Contents)

variable {depth between behind : Nat} {front back source : List Char} {quote c : Char}
  {inner : Contents}

/-- The search for the end of a hole goes over some characters; so many braces are open in front of
them and behind. -/
def Passes (depth : Nat) (front : List Char) (behind : Nat) : Prop :=
  ∀ more, holeEnd? depth none (front ++ more) =
    (holeEnd? behind none more).map fun parts => (front ++ parts.1, parts.2)

/-- The characters that the search looks for. -/
def delimiters : List Char :=
  ['"', '\'', '{', '}']

theorem Passes.nil : Passes depth [] depth := fun more => by
  simp

theorem Passes.append (first : Passes depth front between) (second : Passes between back behind) :
    Passes depth (front ++ back) behind := fun more => by
  rw [List.append_assoc, first, second, Option.map_map]
  simp [Function.comp_def]

theorem Passes.cons (first : Passes depth [c] between) (second : Passes between back behind) :
    Passes depth (c :: back) behind :=
  first.append second

theorem passes_open : Passes depth ['{'] (depth + 1) := fun more => by
  rw [List.cons_append, holeEnd?.eq_def]
  rfl

theorem passes_close : Passes (depth + 1) ['}'] depth := fun more => by
  rw [List.cons_append, holeEnd?.eq_def]
  rfl

theorem passes_plain (plain : ∀ c ∈ front, c ∉ delimiters) : Passes depth front depth := by
  induction front with
  | nil => exact .nil
  | cons c front ih =>
    obtain ⟨first, later⟩ := List.forall_mem_cons.mp plain
    refine Passes.cons (fun more => ?_) (ih later)
    simp only [delimiters, List.mem_cons, List.not_mem_nil, or_false, not_or] at first
    rw [List.cons_append, holeEnd?.eq_def]
    simp [first]

/-- A text in quotes is gone over up to its closing quote. -/
theorem holeEnd?_contents (other : quote ≠ '\\') (closed : contents? quote source = some inner)
    (more : List Char) :
    holeEnd? depth (some quote) (inner.raw ++ more) =
      (holeEnd? depth none more).map fun parts => (inner.raw ++ parts.1, parts.2) := by
  fun_induction contents? quote source generalizing inner with
  | case1 => cases closed
  | case2 => cases closed
  | case3 rest line =>
    obtain rfl := Option.some.inj closed
    rw [List.cons_append, holeEnd?.eq_def]
    simp [other]
  | case4 => cases closed
  | case5 e rest line ends ih =>
    obtain ⟨deeper, further, rfl⟩ := Option.map_eq_some_iff.mp closed
    rw [List.cons_append, List.cons_append, holeEnd?.eq_def]
    simp [ih further, Function.comp_def]
  | case6 c rest line ends escape ih =>
    obtain ⟨deeper, further, rfl⟩ := Option.map_eq_some_iff.mp closed
    rw [List.cons_append, holeEnd?.eq_def]
    simp [ends, escape, ih further, Function.comp_def]

theorem passes_quoted (quoted : quote = '"' ∨ quote = '\'')
    (closed : contents? quote source = some inner) :
    Passes depth (quote :: inner.raw) depth := fun more => by
  have other : quote ≠ '\\' := by rcases quoted with rfl | rfl <;> decide
  rw [List.cons_append, holeEnd?.eq_def]
  simp [quoted, holeEnd?_contents other closed, Function.comp_def]

/-- Where the search goes over all of a hole, it ends at the brace behind it. -/
theorem holeEnd?_passed (passes : Passes 0 front 0) (more : List Char) :
    holeEnd? 0 none (front ++ '}' :: more) = some (front, more) := by
  rw [passes, holeEnd?.eq_def]
  simp

end Template

namespace Lexer

open Template

variable {depth deeper : Nat} {c : Char} {source chars lexeme behind : List Char} {kind : TokenKind}
  {words : List (TokenKind × String)}

theorem splitName_chars : ∀ c ∈ (splitName source).1, isNameChar c ∨ c = '.' := by
  induction source with
  | nil => exact List.forall_mem_nil _
  | cons c rest ih =>
    rw [splitName]
    split
    · rename_i first
      refine List.forall_mem_cons.mpr ⟨?_, ih⟩
      rcases Bool.or_eq_true_iff.mp first with named | dot
      · exact .inl named
      · exact .inr (of_decide_eq_true (Bool.and_eq_true_iff.mp dot).1)
    · exact List.forall_mem_nil _

theorem splitNumber_chars : ∀ c ∈ (splitNumber source).1, Text.isDigit c ∨ c = '.' := by
  have digits (chars : List Char) : ∀ c ∈ chars.takeWhile Text.isDigit, Text.isDigit c ∨ c = '.' :=
    fun c member => .inl (List.all_eq_true.mp List.all_takeWhile c member)
  have fraction (chars : List Char) : ∀ c ∈ (splitFraction chars).1, Text.isDigit c ∨ c = '.' := by
    fun_cases splitFraction chars with
    | case1 d rest digit => exact List.forall_mem_cons.mpr ⟨.inr rfl, digits (d :: rest)⟩
    | case2 => exact List.forall_mem_nil _
    | case3 => exact List.forall_mem_nil _
  exact List.forall_mem_append.mpr ⟨digits source, fraction _⟩

theorem undelimited_of_word (word : (isNameChar c ∨ Text.isDigit c) ∨ c = '.') :
    c ∉ delimiters := by
  have marked : ∀ c ∈ delimiters, c ∈ marks := List.all_iff_forall_prop.mp (by decide)
  rcases word with word | rfl
  · exact fun delimits => word_unmarked word (marked c delimits)
  · decide

theorem splitName_undelimited : ∀ c ∈ (splitName source).1, c ∉ delimiters :=
  fun c member => undelimited_of_word ((splitName_chars c member).imp_left .inl)

theorem splitNumber_undelimited : ∀ c ∈ (splitNumber source).1, c ∉ delimiters :=
  fun c member => undelimited_of_word ((splitNumber_chars c member).imp_left .inr)

theorem nameKind_unbraced : (nameKind chars).isBrace = false := by
  unfold nameKind
  split <;> rfl

theorem punctuation?_unbraced (means : punctuation? c = some kind) (other : c ∉ delimiters) :
    kind.isBrace = false := by
  unfold punctuation? at means
  split_ifs at means <;> cases means <;> first | rfl | simp_all [delimiters]

/-- The search for the end of a hole goes over a token, and counts the brace that it is. Blocks may
hold quotes and braces of their own. -/
theorem Spells.passes (spells : Spells source kind chars lexeme behind) (unblocked : kind ≠ .block)
    (braces : kind.braces? depth = some deeper) : Passes depth lexeme deeper := by
  have plain (other : kind.isBrace = false) (free : ∀ c ∈ lexeme, c ∉ delimiters) :
      Passes depth lexeme deeper := by
    rw [TokenKind.braces?_other other] at braces
    obtain rfl := Option.some.inj braces
    exact passes_plain free
  cases spells with
  | block => exact absurd rfl unblocked
  | string quoted _ closed =>
    obtain rfl := Option.some.inj braces
    exact passes_quoted quoted closed
  | dollarName => exact plain rfl (List.forall_mem_cons.mpr ⟨by decide, splitName_undelimited⟩)
  | number first =>
    refine plain rfl (List.forall_mem_cons.mpr ⟨?_, splitNumber_undelimited⟩)
    rcases Bool.or_eq_true_iff.mp first with digit | signed
    · exact undelimited_of_word (.inl (.inr digit))
    · obtain rfl := of_decide_eq_true (Bool.and_eq_true_iff.mp signed).1
      decide
  | @name c _ first =>
    have word : c ∉ delimiters := undelimited_of_word (.inl (.inl (nameChar_of_start first)))
    exact plain nameKind_unbraced (List.forall_mem_cons.mpr ⟨word, splitName_undelimited⟩)
  | @symbol c _ _ means =>
    by_cases delimits : c ∈ delimiters
    · have brace : ∀ c ∈ delimiters, c ∈ signs → c = '{' ∨ c = '}' :=
        List.all_iff_forall_prop.mp (by decide)
      rcases brace c delimits (punctuation?_sign means) with rfl | rfl
      · obtain rfl := Option.some.inj means
        obtain rfl := Option.some.inj braces
        exact passes_open
      · obtain rfl := Option.some.inj means
        cases depth with
        | zero => cases braces
        | succ depth =>
          obtain rfl := Option.some.inj braces
          exact passes_close
    · exact plain (punctuation?_unbraced means delimits) (List.forall_mem_singleton.mpr delimits)
  | double pair =>
    refine plain rfl ?_
    rcases isPair_iff.mp pair with ⟨rfl | rfl, rfl⟩ | ⟨rfl, rfl⟩ <;>
      exact List.all_iff_forall_prop.mp (by decide)
  | single one =>
    refine plain rfl (List.forall_mem_singleton.mpr ?_)
    rcases one with rfl | rfl <;> decide

/-- The search goes over a text of tokens and counts their braces. -/
theorem Spelled.passes (spelled : Spelled source words)
    (braces : bracesBehind? depth (words.map Prod.fst) = some deeper) :
    Passes depth source deeper := by
  induction spelled generalizing depth with
  | done =>
    obtain rfl := Option.some.inj braces
    exact .nil
  | @space c rest words space later ih =>
    refine Passes.cons (passes_plain (List.forall_mem_singleton.mpr ?_)) (ih braces)
    have visible : ∀ c ∈ delimiters, isSpace c = false := List.all_iff_forall_prop.mp (by decide)
    exact fun delimits => absurd space (by simp [visible c delimits])
  | token front unblocked later ih =>
    rw [List.map_cons, bracesBehind?, List.foldlM_cons] at braces
    obtain ⟨between, first, further⟩ := Option.bind_eq_some_iff.mp braces
    rw [← front.whole]
    exact (front.passes unblocked first).append (ih further)

end Lexer

namespace Template

variable {before inside behind chars rest : List Char} {all : Parts}

/-- The part of a text that some characters are, if there are any. -/
def literalPart (chars : List Char) : List Part :=
  if chars.isEmpty then [] else [.text chars]

/-- Characters that neither open a hole nor hide the character behind them stand for themselves. -/
theorem cut_literal (bare : ∀ c ∈ chars, c ≠ '{' ∧ c ≠ '\\') (more : List Char) :
    cut (chars ++ more) = chars.foldr (fun c all => all.push c) (cut more) := by
  induction chars with
  | nil => rfl
  | cons c chars ih =>
    obtain ⟨⟨opens, hides⟩, later⟩ := List.forall_mem_cons.mp bare
    rw [List.cons_append, cut.eq_def]
    simp only [hides, opens, if_false, ih later, List.foldr_cons]

/-- Literal characters in front of a hole are one part. -/
theorem foldr_push (other : ∀ part ∈ all.parts.head?, ∃ inside, part = .hole inside) :
    chars.foldr (fun c all => all.push c) all =
      { all with parts := literalPart chars ++ all.parts } := by
  obtain ⟨parts, problem⟩ := all
  induction chars with
  | nil => rfl
  | cons c chars ih =>
    rw [List.foldr_cons, ih]
    cases chars with
    | cons d chars => rfl
    | nil =>
      match parts with
      | [] => rfl
      | .hole inside :: rest => rfl
      | .text chars :: rest =>
        obtain ⟨inside, same⟩ := other _ rfl
        cases same

theorem cut_found (found : holeEnd? 0 none rest = some (inside, behind))
    (nonempty : Text.trim inside ≠ []) :
    cut ('{' :: rest) =
      { cut behind with parts := .hole (Text.trim inside) :: (cut behind).parts } := by
  rw [cut.eq_def]
  simp only [Char.reduceEq, if_false, if_true]
  split
  · rename_i unclosed
    rw [found] at unclosed
    cases unclosed
  · rename_i same
    rw [found] at same
    obtain ⟨rfl, rfl⟩ := Prod.mk.inj (Option.some.inj same)
    exact if_neg (by simpa using nonempty)

/-- A text with one hole is cut around it. -/
theorem cut_around (outside : ∀ c ∈ before ++ behind, c ≠ '{' ∧ c ≠ '\\')
    (passes : Passes 0 inside 0) (nonempty : Text.trim inside ≠ []) :
    cut (before ++ '{' :: (inside ++ '}' :: behind)) =
      ⟨literalPart before ++ .hole (Text.trim inside) :: literalPart behind, none⟩ := by
  obtain ⟨front, back⟩ := List.forall_mem_append.mp outside
  have last : cut behind = ⟨literalPart behind, none⟩ := by
    have whole := cut_literal back []
    rw [List.append_nil, cut] at whole
    rw [whole, foldr_push (by simp), List.append_nil]
  rw [cut_literal front, cut_found (holeEnd?_passed passes behind) nonempty, last,
    foldr_push (by simp)]

end Template

namespace Reading

open Grammar Template Failure BotScript.Expr

variable {stream : TokenStream} {parsed : Parsed Expr (.all stream.tokens)} {inside : List Char}

/-- An expression in a hole is read as it is outside, and put where the text is. -/
theorem hole_read (spelled : Lexer.Spelled inside (stream.tokens.map Token.bare))
    (read : expression template (.all stream.tokens) = .ok parsed) (whole : parsed.rest.tokens = [])
    (token : Token) :
    hole template token (Text.trim inside) = .ok (parsed.value.relocate token.position) := by
  obtain ⟨trimmed, scanned, same⟩ := spelled.trim.scan .start
  have alike := expression_alike (Token.alike_of_bare same.symm)
  rw [read] at alike
  unfold hole
  dsimp only
  rw [scanned]
  dsimp only
  generalize expression template (.all trimmed.tokens) = result at alike
  cases alike with
  | @ok _ inner values =>
    obtain ⟨value, rest⟩ := values
    rw [whole, List.forall₂_nil_left_iff] at rest
    dsimp only
    rw [rest]
    exact congrArg Except.ok (value.relocate_eq token.position).symm

/-- The segment of a text that some characters are, if there are any. -/
def literalSegment (s : String) : List Segment :=
  if s.isEmpty then [] else [.text s]

theorem segments_literal {hole : List Char → Except Failure Expr} {parts : List Part}
    {others : List Segment} (later : segments hole parts = .ok others) (s : String) :
    segments hole (literalPart s.toList ++ parts) = .ok (literalSegment s ++ others) := by
  unfold literalPart literalSegment
  by_cases empty : s = ""
  · subst empty
    exact later
  · rw [if_neg (by simpa using empty), if_neg (by simpa using empty), List.singleton_append,
      segments, later, String.ofList_toList]
    rfl

/-- The literal characters around a hole and the expression in it are the segments of a text. -/
theorem segments_around {hole : List Char → Except Failure Expr} {chars : List Char} {e : Expr}
    (found : hole chars = .ok e) (before behind : String) :
    segments hole (literalPart before.toList ++ .hole chars :: literalPart behind.toList) =
      .ok (literalSegment before ++ .hole e :: literalSegment behind) := by
  have finished : segments hole [] = .ok [] := rfl
  have last := segments_literal finished behind
  rw [List.append_nil, List.append_nil] at last
  refine segments_literal ?_ before
  rw [segments, found, last]
  rfl

/-- A text that is cut around a hole is a template. -/
theorem templateWith_around {hole : List Char → Except Failure Expr} {chars : List Char} {e : Expr}
    {token : Token} {before behind : String}
    (cutting : cut token.text.toList =
      ⟨literalPart before.toList ++ .hole chars :: literalPart behind.toList, none⟩)
    (found : hole chars = .ok e) :
    templateWith hole token = .ok
      (.template (literalSegment before ++ .hole e :: literalSegment behind) token.position) := by
  have listed : Segment.hole e ∈ literalSegment before ++ .hole e :: literalSegment behind :=
    List.mem_append_right _ List.mem_cons_self
  unfold templateWith
  rw [cutting]
  dsimp only
  rw [segments_around found]
  generalize literalSegment before ++ .hole e :: literalSegment behind = all at listed ⊢
  simp only [bind, Except.bind]
  split
  · cases listed
  · cases List.mem_singleton.mp listed
  · rfl

/-- An expression in braces is found in a text, wherever quotes and braces stand in it, and is read
as it is outside: a text with one hole, whose inside is an expression without comments and blocks,
is made of the literal parts around the hole, those that are not empty, and the expression, blamed
all through on the text. -/
theorem template_around {before inside behind : String} {stream : TokenStream}
    {parsed : Parsed Expr (.all stream.tokens)} {token : Token}
    (text : token.text = before ++ "\x7b" ++ inside ++ "\x7d" ++ behind)
    (outside : ∀ c ∈ before.toList ++ behind.toList, c ≠ '{' ∧ c ≠ '\\')
    (scanned : tokenize inside = .ok stream) (uncommented : Lexer.commented inside.toList = false)
    (unblocked : ∀ t ∈ stream.tokens, t.kind ≠ .block)
    (read : expression template (.all stream.tokens) = .ok parsed)
    (whole : parsed.rest.tokens = []) :
    template token =
      .ok (.template
        (literalSegment before ++ .hole (parsed.value.relocate token.position) ::
          literalSegment behind)
        token.position) := by
  have spelled := Lexer.spelled_of_scan scanned uncommented unblocked
  have derived : Term stream.tokens parsed.value [] := by
    have decided := term_decides (.all stream.tokens)
    rw [read] at decided
    rw [← whole]
    exact decided.2.1
  have braces : bracesBehind? 0 ((stream.tokens.map Token.bare).map Prod.fst) = some 0 := by
    rw [List.map_map]
    exact derived.balanced 0
  have visible : Text.trim inside.toList ≠ [] := by
    refine spelled.trim_some fun words => ?_
    obtain ⟨e, derived⟩ : ∃ e, Term stream.tokens e [] := ⟨_, derived⟩
    rw [List.map_eq_nil_iff.mp words] at derived
    exact derived.not_nil
  have chars : token.text.toList =
      before.toList ++ '{' :: (inside.toList ++ '}' :: behind.toList) := by
    rw [text]
    simp only [String.toList_append, List.append_assoc]
    rfl
  have cutting := cut_around outside (spelled.passes braces) visible
  rw [← chars] at cutting
  rw [template_fixed]
  exact templateWith_around cutting (hole_read spelled read whole token)

/-- The text is an expression without comments and blocks. -/
def isHole (inside : String) : Bool :=
  match tokenize inside with
  | .error _ => false
  | .ok stream =>
    !Lexer.commented inside.toList && stream.tokens.all (·.kind ≠ .block) &&
      match expression template (.all stream.tokens) with
      | .error _ => false
      | .ok parsed => parsed.rest.tokens.isEmpty

/-- An object with an object in it, and with a text in it that holds a quote, a closing brace and a
hole of its own. -/
def nestedHole : String :=
  " \x7bkey: \"\\\"\x7d \x7bname\x7d\", more: \x7bx: 1\x7d\x7d "

theorem nestedHole_around : ∃ stream parsed, tokenize nestedHole = .ok stream ∧
    Lexer.commented nestedHole.toList = false ∧ (∀ t ∈ stream.tokens, t.kind ≠ .block) ∧
      expression template (.all stream.tokens) = .ok parsed ∧ parsed.rest.tokens = [] ∧
        ∀ p : Position, template ⟨.string, "It is" ++ "\x7b" ++ nestedHole ++ "\x7d" ++ "", p⟩ =
          .ok (.template [.text "It is", .hole (parsed.value.relocate p)] p) := by
  have checked : isHole nestedHole = true := by decide +kernel
  unfold isHole at checked
  split at checked
  · cases checked
  rename_i stream scanned
  rw [Bool.and_eq_true, Bool.and_eq_true] at checked
  obtain ⟨⟨free, lines⟩, read⟩ := checked
  split at read
  · cases read
  rename_i parsed result
  have uncommented : Lexer.commented nestedHole.toList = false := by simpa using free
  have unblocked : ∀ t ∈ stream.tokens, t.kind ≠ .block := by simpa using lines
  have whole : parsed.rest.tokens = [] := List.isEmpty_iff.mp read
  have outside : ∀ c ∈ "It is".toList ++ "".toList, c ≠ '{' ∧ c ≠ '\\' :=
    List.all_iff_forall_prop.mp (by decide)
  refine ⟨stream, parsed, scanned, uncommented, unblocked, result, whole, fun p => ?_⟩
  exact @template_around "It is" nestedHole "" stream parsed
    ⟨.string, _, p⟩ rfl outside scanned uncommented unblocked
    result whole

end Reading

end BotScript
