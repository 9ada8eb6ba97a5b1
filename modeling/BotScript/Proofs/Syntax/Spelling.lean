import BotScript.Proofs.Layout.Tokens
import BotScript.Proofs.Syntax.Positions
import Mathlib.Data.Bool.AllAny

/-! How tokens are spelled. A token has one of eight shapes, and its shape alone decides how far it
goes. So a text without comments is a row of such tokens with spaces between them. -/

namespace BotScript.Lexer

open Text (isDigit)

/-- Two characters that are one operator. -/
def isPair (c d : Char) : Bool :=
  c = '=' && d = '=' || c = '!' && d = '=' || c = '?' && d = '?'

/-- A token at the front of a text: its kind and characters, how it is spelled and what is behind
it. -/
inductive Spells : List Char → TokenKind → List Char → List Char → List Char → Prop
  | block {rest inside behind : List Char}
      (closed : splitAtMark? ['"', '"', '"'] rest = some (inside, behind)) :
      Spells ('"' :: '"' :: '"' :: rest) .block (Text.cleanBlock inside)
        ('"' :: '"' :: '"' :: inside ++ ['"', '"', '"'])
        behind
  | string {quote : Char} {rest : List Char} {inner : Contents}
      (quoted : quote = '"' ∨ quote = '\'') (line : quote = '"' → ¬ ['"', '"'] <+: rest)
      (closed : contents? quote rest = some inner) :
      Spells (quote :: rest) .string inner.value (quote :: inner.raw) inner.rest
  | dollarName {rest : List Char} (starts : rest.head?.any isNameStart) :
      Spells ('$' :: rest) .dollarName (splitName rest).1 ('$' :: (splitName rest).1)
        (splitName rest).2
  | number {c : Char} {rest : List Char} (first : isDigit c || (c = '-' && digitFollows rest)) :
      Spells (c :: rest) .number (c :: (splitNumber rest).1) (c :: (splitNumber rest).1)
        (splitNumber rest).2
  | name {c : Char} {rest : List Char} (first : isNameStart c) (other : isDigit c = false) :
      Spells (c :: rest) (nameKind (c :: (splitName rest).1)) (c :: (splitName rest).1)
        (c :: (splitName rest).1)
        (splitName rest).2
  | symbol {c : Char} {rest : List Char} {kind : TokenKind} (means : punctuation? c = some kind) :
      Spells (c :: rest) kind [c] [c] rest
  | double {c d : Char} {rest : List Char}
      (pair : isPair c d) : Spells (c :: d :: rest) .operator [c, d] [c, d] rest
  | single {c : Char} {rest : List Char} (one : c = '=' ∨ c = '+')
      (alone : rest.head?.any (isPair c) = false) :
      Spells (c :: rest) .operator [c] [c] rest

section

variable {c : Char} {rest source chars lexeme behind : List Char} {kind : TokenKind}

theorem Spells.whole (spells : Spells source kind chars lexeme behind) :
    lexeme ++ behind = source := by
  cases spells with
  | block closed => simp [← splitAtMark?_whole closed]
  | string _ _ closed => simp [contents?_whole closed]
  | dollarName => simp [splitName_whole]
  | number => simp [splitNumber_whole]
  | name => simp [splitName_whole]
  | symbol => rfl
  | double => rfl
  | single => rfl

theorem Spells.starts (spells : Spells source kind chars lexeme behind) :
    ∃ c rest, source = c :: rest := by
  cases spells <;> exact ⟨_, _, rfl⟩

theorem operator_spells {found : Piece (c :: rest)} (fits : operator c rest = .ok found)
    (token : found.token = some (kind, chars)) :
    Spells (c :: rest) kind chars found.lexeme found.rest := by
  unfold operator at fits
  split at fits
  · rename_i d tail
    split at fits
    · rename_i pair
      obtain rfl := Except.ok.inj fits
      obtain ⟨rfl, rfl⟩ := Prod.mk.inj (Option.some.inj token)
      exact .double pair
    · rename_i other
      split at fits
      · rename_i one
        obtain rfl := Except.ok.inj fits
        obtain ⟨rfl, rfl⟩ := Prod.mk.inj (Option.some.inj token)
        exact .single (by simpa using one) (Bool.eq_false_iff.mpr other)
      · cases fits
  · split at fits
    · rename_i one
      obtain rfl := Except.ok.inj fits
      obtain ⟨rfl, rfl⟩ := Prod.mk.inj (Option.some.inj token)
      exact .single (by simpa using one) rfl
    · cases fits

theorem blockText_spells {found : Piece ('"' :: '"' :: '"' :: rest)}
    (fits : blockText rest = .ok found) (token : found.token = some (kind, chars)) :
    Spells ('"' :: '"' :: '"' :: rest) kind chars found.lexeme found.rest := by
  unfold blockText at fits
  split at fits
  · cases fits
  · rename_i inside behind closed
    obtain rfl := Except.ok.inj fits
    obtain ⟨rfl, rfl⟩ := Prod.mk.inj (Option.some.inj token)
    exact .block closed

theorem lineText_spells {found : Piece (c :: rest)} (fits : lineText c rest = .ok found)
    (token : found.token = some (kind, chars)) (quoted : c = '"' ∨ c = '\'')
    (line : c = '"' → ¬ ['"', '"'] <+: rest) :
    Spells (c :: rest) kind chars found.lexeme found.rest := by
  unfold lineText at fits
  split at fits
  · cases fits
  · rename_i inner closed
    obtain rfl := Except.ok.inj fits
    obtain ⟨rfl, rfl⟩ := Prod.mk.inj (Option.some.inj token)
    exact .string quoted line closed

theorem dollarName_spells {found : Piece ('$' :: rest)} (fits : dollarName '$' rest = .ok found)
    (token : found.token = some (kind, chars)) :
    Spells ('$' :: rest) kind chars found.lexeme found.rest := by
  unfold dollarName at fits
  split at fits
  · rename_i starts
    obtain rfl := Except.ok.inj fits
    obtain ⟨rfl, rfl⟩ := Prod.mk.inj (Option.some.inj token)
    exact .dollarName starts
  · cases fits

/-- A piece is a token of one of the shapes, unless it is a blank or a comment. -/
theorem piece_spells {found : Piece (c :: rest)} (fits : piece c rest = .ok found)
    (token : found.token = some (kind, chars)) :
    Spells (c :: rest) kind chars found.lexeme found.rest := by
  unfold piece at fits
  split at fits
  · obtain rfl := Except.ok.inj fits
    cases token
  split at fits
  · obtain rfl := Except.ok.inj fits
    cases token
  split at fits
  · unfold blockComment at fits
    split at fits
    · cases fits
    · obtain rfl := Except.ok.inj fits
      cases token
  · exact blockText_spells fits token
  · rename_i line
    split at fits
    · rename_i quoted
      refine lineText_spells fits token (by simpa using quoted) fun double ⟨more, same⟩ => ?_
      exact line more double same.symm
    split at fits
    · rename_i dollar
      obtain rfl := dollar
      exact dollarName_spells fits token
    split at fits
    · rename_i starts
      obtain rfl := Except.ok.inj fits
      obtain ⟨rfl, rfl⟩ := Prod.mk.inj (Option.some.inj token)
      exact .number starts
    split at fits
    · rename_i other starts
      obtain rfl := Except.ok.inj fits
      obtain ⟨rfl, rfl⟩ := Prod.mk.inj (Option.some.inj token)
      exact .name starts (Bool.or_eq_false_iff.mp (Bool.eq_false_iff.mpr other)).1
    split at fits
    · rename_i symbol
      obtain rfl := Except.ok.inj fits
      obtain ⟨rfl, rfl⟩ := Prod.mk.inj (Option.some.inj token)
      exact .symbol symbol
    · exact operator_spells fits token

/-- The characters of symbols. -/
def signs : List Char :=
  ['{', '}', '[', ']', '(', ')', ':', ',', '=', '!', '?', '+']

/-- The characters of the language that belong to no word and are no digits. -/
def marks : List Char :=
  [' ', '\t', '\r', '\n', '#', '/', '"', '\'', '\\', '$', '.', '-'] ++ signs

theorem word_unmarked (word : isNameChar c ∨ isDigit c) : c ∉ marks := by
  have unworded : ∀ c ∈ marks, isNameChar c = false ∧ isDigit c = false :=
    List.all_iff_forall_prop.mp (by decide)
  intro mark
  obtain ⟨unnamed, undigited⟩ := unworded c mark
  simp [unnamed, undigited] at word

theorem nameChar_of_start (first : isNameStart c) : isNameChar c := by
  unfold isNameStart at first
  unfold isNameChar
  rcases Bool.or_eq_true_iff.mp first with letter | underscore
  · simp [letter]
  · simp [underscore]

/-- A piece that starts neither like a blank nor like a comment or a block. -/
theorem piece_other (space : isSpace c = false) (hash : c ≠ '#') (slash : c ≠ '/')
    (line : c = '"' → ¬ ['"', '"'] <+: rest) :
    piece c rest =
      if c = '"' || c = '\'' then lineText c rest
      else if c = '$' then dollarName c rest
      else if isDigit c || (c = '-' && digitFollows rest) then .ok (number c rest)
      else if isNameStart c then .ok (plainName c rest)
      else
        match punctuation? c with
        | some kind => .ok (single (some (kind, [c])) c rest)
        | none => operator c rest := by
  unfold piece
  rw [if_neg (by simp [space]), if_neg hash]
  split
  · exact absurd rfl slash
  · exact absurd ⟨_, rfl⟩ (line rfl)
  · rfl

theorem piece_unmarked (unmarked : c ∉ marks) :
    piece c rest =
      if isDigit c then .ok (number c rest)
      else if isNameStart c then .ok (plainName c rest)
      else
        match punctuation? c with
        | some kind => .ok (single (some (kind, [c])) c rest)
        | none => operator c rest := by
  simp only [marks, List.mem_append, List.mem_cons, List.not_mem_nil, or_false, not_or] at unmarked
  rw [piece_other (by simp [isSpace, unmarked]) (by simp [unmarked]) (by simp [unmarked])
    (by simp [unmarked])]
  simp [unmarked]

/-- Symbols are looked for last. -/
theorem piece_sign (sign : c ∈ signs) :
    piece c rest =
      match punctuation? c with
      | some kind => .ok (single (some (kind, [c])) c rest)
      | none => operator c rest := by
  have other : ∀ c ∈ signs, (isSpace c = false ∧ c ≠ '#' ∧ c ≠ '/' ∧ c ≠ '"') ∧ c ≠ '\'' ∧
      c ≠ '$' ∧ c ≠ '-' ∧
      isDigit c = false ∧ isNameStart c = false := List.all_iff_forall_prop.mp (by decide)
  obtain ⟨⟨space, hash, slash, quote⟩, others⟩ := other c sign
  rw [piece_other space hash slash fun same => absurd same quote]
  simp [quote, others]

theorem punctuation?_sign (means : punctuation? c = some kind) : c ∈ signs := by
  unfold punctuation? at means
  split_ifs at means <;> simp_all [signs]

theorem isPair_iff {d : Char} : isPair c d ↔ (c = '=' ∨ c = '!') ∧ d = '=' ∨ c = '?' ∧ d = '?' := by
  simp [isPair, or_and_right]

theorem isPair_sign {d : Char} (pair : isPair c d) : c ∈ signs ∧ punctuation? c = none := by
  rcases isPair_iff.mp pair with ⟨rfl | rfl, -⟩ | ⟨rfl, -⟩ <;> decide

theorem blockText_closed {inside : List Char}
    (closed : splitAtMark? ['"', '"', '"'] rest = some (inside, behind)) :
    ∃ found, blockText rest = .ok found ∧ found.token = some (.block, Text.cleanBlock inside) ∧
      found.rest = behind := by
  unfold blockText
  split
  · rename_i other
    rw [closed] at other
    cases other
  · rename_i again further same
    rw [closed] at same
    obtain ⟨rfl, rfl⟩ := Prod.mk.inj (Option.some.inj same)
    exact ⟨_, rfl, rfl, rfl⟩

theorem lineText_closed {inner : Contents} (closed : contents? c rest = some inner) :
    ∃ found, lineText c rest = .ok found ∧ found.token = some (.string, inner.value) ∧
      found.rest = inner.rest := by
  unfold lineText
  split
  · rename_i other
    rw [closed] at other
    cases other
  · rename_i again same
    rw [closed] at same
    obtain rfl := Option.some.inj same
    exact ⟨_, rfl, rfl, rfl⟩

theorem Spells.piece (spells : Spells (c :: rest) kind chars lexeme behind) :
    ∃ found, piece c rest = .ok found ∧ found.token = some (kind, chars) ∧ found.rest = behind := by
  cases spells with
  | block closed =>
    obtain ⟨found, fits, shape⟩ := blockText_closed closed
    exact ⟨found, fits, shape⟩
  | string quoted line closed =>
    obtain ⟨found, fits, shape⟩ := lineText_closed closed
    refine ⟨found, ?_, shape⟩
    rcases quoted with rfl | rfl
    · rw [piece_other (by decide) (by decide) (by decide) line]
      exact fits
    · rw [piece_other (by decide) (by decide) (by decide) line]
      exact fits
  | dollarName starts =>
    rw [piece_other (by decide) (by decide) (by decide) (by simp)]
    refine ⟨_, if_pos starts, rfl, rfl⟩
  | number first =>
    rcases Bool.or_eq_true_iff.mp first with digit | signed
    · rw [piece_unmarked (word_unmarked (.inr digit)), if_pos digit]
      exact ⟨_, rfl, rfl, rfl⟩
    · obtain ⟨minus, digit⟩ := Bool.and_eq_true_iff.mp signed
      obtain rfl := of_decide_eq_true minus
      rw [piece_other (by decide) (by decide) (by decide) (by simp)]
      exact ⟨_, if_pos first, rfl, rfl⟩
  | name first other =>
    rw [piece_unmarked (word_unmarked (.inl (nameChar_of_start first))),
      if_neg (by simp [other]), if_pos first]
    exact ⟨_, rfl, rfl, rfl⟩
  | symbol means =>
    rw [piece_sign (punctuation?_sign means), means]
    exact ⟨_, rfl, rfl, rfl⟩
  | @double _ d rest pair =>
    rw [piece_sign (isPair_sign pair).1, (isPair_sign pair).2]
    exact ⟨_, if_pos pair, rfl, rfl⟩
  | single one alone =>
    have first : c ∈ signs ∧ punctuation? c = none := by
      rcases one with rfl | rfl <;> decide
    rw [piece_sign first.1, first.2]
    have whole : (decide (c = '=') || decide (c = '+')) = true := by simpa using one
    cases rest with
    | nil => exact ⟨_, if_pos whole, rfl, rfl⟩
    | cons d tail =>
      have other : ¬ isPair c d = true := Bool.eq_false_iff.mp alone
      exact ⟨_, (if_neg other).trans (if_pos whole), rfl, rfl⟩

end

/-! ## Texts -/

/-- Some piece of a text is a comment. -/
def commented (source : List Char) : Bool :=
  match source with
  | [] => false
  | c :: rest =>
    match piece c rest with
    | .error _ => false
    | .ok found => found.token.isNone && !isSpace c || commented found.rest
termination_by source.length
decreasing_by exact found.rest_shorter

/-- A text is some tokens in a row, none of them a block, with nothing but spaces between them. -/
inductive Spelled : List Char → List (TokenKind × String) → Prop
  | done : Spelled [] []
  | space {c : Char} {rest : List Char} {words : List (TokenKind × String)} (space : isSpace c)
      (later : Spelled rest words) : Spelled (c :: rest) words
  | token {source chars lexeme behind : List Char} {kind : TokenKind}
      {words : List (TokenKind × String)} (front : Spells source kind chars lexeme behind)
      (unblocked : kind ≠ .block) (later : Spelled behind words) :
      Spelled source ((kind, String.ofList chars) :: words)

section

variable {source : List Char} {p : Position} {stream : TokenStream}
  {words : List (TokenKind × String)}

theorem piece_space {c : Char} {rest : List Char} (space : isSpace c) :
    piece c rest = .ok (single none c rest) :=
  if_pos space

/-- Texts without comments and blocks are spelled out as their tokens. -/
theorem spelled_of_scan (scanned : scan p source = .ok stream)
    (uncommented : commented source = false) (unblocked : ∀ t ∈ stream.tokens, t.kind ≠ .block) :
    Spelled source (stream.tokens.map Token.bare) := by
  have read := scanned_of_scan scanned
  clear scanned
  induction read with
  | done => exact .done
  | @blank p finish c rest found tokens fits blank later ih =>
    rw [commented, fits] at uncommented
    simp only [blank, Option.isNone_none, Bool.true_and, Bool.or_eq_false_iff,
      Bool.not_eq_false'] at uncommented
    obtain ⟨space, further⟩ := uncommented
    obtain rfl := Except.ok.inj ((piece_space space).symm.trans fits)
    exact .space space (ih further unblocked)
  | @token p finish c rest chars kind found tokens fits token later ih =>
    rw [commented, fits] at uncommented
    have further := (Bool.or_eq_false_iff.mp uncommented).2
    obtain ⟨known, others⟩ := List.forall_mem_cons.mp unblocked
    exact .token (piece_spells fits token) known (ih further others)

theorem Spelled.scan (spelled : Spelled source words) (p : Position) :
    ∃ stream, scan p source = .ok stream ∧ stream.tokens.map Token.bare = words := by
  induction spelled generalizing p with
  | done => exact ⟨⟨[], p⟩, by rw [Lexer.scan], rfl⟩
  | @space c rest words space later ih =>
    obtain ⟨⟨tokens, finish⟩, scanned, same⟩ := ih (p.advance [c])
    exact ⟨_, scan_blank (piece_space space) rfl scanned, same⟩
  | @token source chars lexeme behind kind words front _ later ih =>
    obtain ⟨c, rest, rfl⟩ := front.starts
    obtain ⟨found, fits, token, rfl⟩ := front.piece
    obtain ⟨⟨tokens, finish⟩, scanned, same⟩ := ih (p.advance found.lexeme)
    exact ⟨_, scan_token fits token scanned, congrArg (_ :: ·) same⟩

end

end BotScript.Lexer
