import BotScript.Proofs.Number.Numerals
import BotScript.Proofs.Syntax.Spelling

/-! What a program text is made of. Between tokens stand blanks and comments; a token is written as
a lexeme of one of eight forms. The forms are described without the search for them, and the lexer
finds the longest lexeme that its text starts with. -/

namespace BotScript.Lexer

open Text (isDigit isLetter)

/-! ## Closing marks -/

section

variable {c : Char} {mark source rest before behind : List Char}

/-- A text is split at the first of its marks: none lies further in front, and none begins in front
of it and ends in it. -/
theorem splitAtMark?_iff (marked : mark ≠ []) : splitAtMark? mark source = some (before, behind) ↔
    source = before ++ (mark ++ behind) ∧ ¬ mark <:+: before ++ mark.dropLast := by
  have length := List.length_pos_iff.mpr marked
  have opens (after : List Char) : mark.dropLast <+: mark ++ after :=
    (List.dropLast_prefix mark).trans (List.prefix_append mark after)
  induction source generalizing before with
  | nil => simp [splitAtMark?, marked]
  | cons c rest ih =>
    rw [splitAtMark?]
    split
    · rename_i starts
      have front : mark <+: c :: rest := List.isPrefixOf_iff_prefix.mp starts
      constructor
      · intro found
        obtain ⟨rfl, rfl⟩ := Prod.mk.inj (Option.some.inj found)
        refine ⟨(List.prefix_iff_eq_append.mp front).symm, fun short => ?_⟩
        have fewer := short.length_le
        rw [List.nil_append, List.length_dropLast] at fewer
        omega
      · rintro ⟨whole, first⟩
        have reaches : before ++ mark.dropLast <+: c :: rest :=
          whole ▸ (List.prefix_append_right_inj before).mpr (opens behind)
        cases before with
        | nil => simp [whole]
        | cons d before =>
          refine absurd (List.prefix_of_prefix_length_le front reaches ?_).isInfix first
          simp only [List.length_append, List.length_cons, List.length_dropLast]
          omega
    · rename_i other
      have unmarked : ¬ mark <+: c :: rest :=
        fun front => other (List.isPrefixOf_iff_prefix.mpr front)
      rw [Option.map_eq_some_iff]
      constructor
      · rintro ⟨⟨inside, after⟩, found, same⟩
        obtain ⟨rfl, rfl⟩ := Prod.mk.inj same
        obtain ⟨whole, first⟩ := ih.mp found
        refine ⟨congrArg (c :: ·) whole, fun short => ?_⟩
        rcases List.infix_cons_iff.mp short with front | later
        · refine unmarked (front.trans ?_)
          rw [whole, List.prefix_cons_inj]
          exact (List.prefix_append_right_inj inside).mpr (opens after)
        · exact first later
      · rintro ⟨whole, first⟩
        cases before with
        | nil => exact absurd ⟨behind, whole.symm⟩ unmarked
        | cons d before =>
          obtain ⟨rfl, rest⟩ := List.cons.inj whole
          refine ⟨(before, behind), ih.mpr ⟨rest, fun later => first ?_⟩, rfl⟩
          exact List.infix_cons_iff.mpr (.inr later)

end

/-! ## Blanks and comments -/

/-- A blank or a comment at the front of a text, and what is behind it. -/
inductive Skips : List Char → List Char → List Char → Prop
  | blank {c : Char} {rest : List Char} (space : isSpace c) : Skips (c :: rest) [c] rest
  | line (rest : List Char) :
      Skips ('#' :: rest) ('#' :: rest.takeWhile (· ≠ '\n')) (rest.dropWhile (· ≠ '\n'))
  | block {rest inside behind : List Char}
      (closed : splitAtMark? ['*', '/'] rest = some (inside, behind)) :
      Skips ('/' :: '*' :: rest) ('/' :: '*' :: inside ++ ['*', '/']) behind

section

variable {c : Char} {rest source lexeme behind : List Char}

theorem blockText_token {found : Piece ('"' :: '"' :: '"' :: rest)}
    (fits : blockText rest = .ok found) :
    found.token ≠ none := by
  unfold blockText at fits
  split at fits <;> cases fits
  exact Option.some_ne_none _

theorem lineText_token {found : Piece (c :: rest)} (fits : lineText c rest = .ok found) :
    found.token ≠ none := by
  unfold lineText at fits
  split at fits <;> cases fits
  exact Option.some_ne_none _

theorem dollarName_token {found : Piece (c :: rest)} (fits : dollarName c rest = .ok found) :
    found.token ≠ none := by
  unfold dollarName at fits
  split at fits <;> cases fits
  exact Option.some_ne_none _

theorem operator_token {found : Piece (c :: rest)} (fits : operator c rest = .ok found) :
    found.token ≠ none := by
  unfold operator at fits
  repeat' split at fits
  all_goals cases fits
  all_goals exact Option.some_ne_none _

/-- A piece without a token is a blank or a comment. -/
theorem piece_skips {found : Piece (c :: rest)} (fits : piece c rest = .ok found)
    (blank : found.token = none) :
    Skips (c :: rest) found.lexeme found.rest := by
  unfold piece at fits
  split at fits
  · rename_i space
    obtain rfl := Except.ok.inj fits
    exact .blank space
  split at fits
  · rename_i hash
    obtain rfl := hash
    obtain rfl := Except.ok.inj fits
    exact .line rest
  split at fits
  · unfold blockComment at fits
    split at fits
    · cases fits
    · rename_i closed
      obtain rfl := Except.ok.inj fits
      exact .block closed
  · exact absurd blank (blockText_token fits)
  · split at fits
    · exact absurd blank (lineText_token fits)
    split at fits
    · exact absurd blank (dollarName_token fits)
    split at fits
    · obtain rfl := Except.ok.inj fits
      cases blank
    split at fits
    · obtain rfl := Except.ok.inj fits
      cases blank
    split at fits
    · obtain rfl := Except.ok.inj fits
      cases blank
    · exact absurd blank (operator_token fits)

theorem Skips.piece (skips : Skips (c :: rest) lexeme behind) :
    ∃ found, piece c rest = .ok found ∧ found.token = none ∧ found.rest = behind := by
  cases skips with
  | blank space => exact ⟨_, piece_space space, rfl, rfl⟩
  | line => exact ⟨lineComment '#' rest, rfl, rfl, rfl⟩
  | @block rest inside _ closed =>
    have comment : Lexer.piece '/' ('*' :: rest) = blockComment rest := rfl
    rw [comment]
    unfold blockComment
    split
    · rename_i other
      rw [closed] at other
      cases other
    · rename_i again further same
      rw [closed] at same
      obtain ⟨rfl, rfl⟩ := Prod.mk.inj (Option.some.inj same)
      exact ⟨_, rfl, rfl, rfl⟩

end

/-! ## Names and numbers -/

/-- Runs of name characters, none of them empty, joined by single dots. -/
inductive IsDotted : List Char → Prop
  | run {run : List Char} (visible : run ≠ []) (named : ∀ c ∈ run, isNameChar c) : IsDotted run
  | dot {run rest : List Char} (visible : run ≠ []) (named : ∀ c ∈ run, isNameChar c)
      (later : IsDotted rest) :
      IsDotted (run ++ '.' :: rest)

/-- A dotted name that starts with a letter or an underscore. -/
structure IsName (chars : List Char) : Prop where
  dotted : IsDotted chars
  starts : chars.head?.any isNameStart

/-- Some digits, which may lack a value. -/
structure IsDigits (chars : List Char) : Prop where
  visible : chars ≠ []
  digits : ∀ c ∈ chars, isDigit c

/-- Digits, or digits around a point, behind a minus sign if there is one. -/
inductive IsNumber : List Char → Prop
  | whole {sign digits : List Char} (signed : Number.IsSign sign)
      (body : IsDigits digits) : IsNumber (sign ++ digits)
  | fraction {sign digits more : List Char} (signed : Number.IsSign sign) (body : IsDigits digits)
      (behind : IsDigits more) :
      IsNumber (sign ++ (digits ++ '.' :: more))

section

variable {c : Char} {chars run rest : List Char}

theorem IsDotted.cons (named : isNameChar c) (dotted : IsDotted chars) : IsDotted (c :: chars) := by
  cases dotted with
  | run _ all => exact .run (List.cons_ne_nil _ _) (List.forall_mem_cons.mpr ⟨named, all⟩)
  | dot _ all later =>
    exact .dot (List.cons_ne_nil _ _) (List.forall_mem_cons.mpr ⟨named, all⟩) later

theorem IsDotted.follows (dotted : IsDotted chars) (more : List Char) :
    nameFollows (chars ++ more) := by
  cases dotted with
  | run visible named =>
    obtain ⟨c, run, rfl⟩ := List.exists_cons_of_ne_nil visible
    exact named c List.mem_cons_self
  | dot visible named =>
    obtain ⟨c, run, rfl⟩ := List.exists_cons_of_ne_nil visible
    exact named c List.mem_cons_self

/-- What is split off behind a name character makes up a dotted name with it, and so it does alone
where it starts with one. -/
theorem splitName_dotted (rest : List Char) :
    (∀ c, isNameChar c → IsDotted (c :: (splitName rest).1)) ∧
    (nameFollows rest → IsDotted (splitName rest).1) := by
  have single {c : Char} (named : isNameChar c) : IsDotted [c] :=
    .run (List.cons_ne_nil _ _) (List.forall_mem_singleton.mpr named)
  induction rest with
  | nil => exact ⟨fun c named => single named, nofun⟩
  | cons d rest ih =>
    obtain ⟨joined, alone⟩ := ih
    rw [splitName]
    split
    · rename_i first
      refine ⟨fun c named => ?_, fun named => joined d named⟩
      rcases Bool.or_eq_true_iff.mp first with more | dot
      · exact (joined d more).cons named
      · obtain ⟨dot, follows⟩ := Bool.and_eq_true_iff.mp dot
        obtain rfl := of_decide_eq_true dot
        exact @IsDotted.dot [c] _ (List.cons_ne_nil _ _) (List.forall_mem_singleton.mpr named)
          (alone follows)
    · rename_i other
      refine ⟨fun c named => single named, fun named => absurd ?_ other⟩
      exact Bool.or_eq_true_iff.mpr (.inl named)

theorem splitName_run (named : ∀ c ∈ run, isNameChar c) (more : List Char) :
    splitName (run ++ more) = (run ++ (splitName more).1, (splitName more).2) := by
  induction run with
  | nil => rfl
  | cons c run ih =>
    obtain ⟨first, later⟩ := List.forall_mem_cons.mp named
    rw [List.cons_append, splitName, if_pos (by simp [first]), ih later]
    rfl

/-- A dotted name is split off to its end. -/
theorem IsDotted.longest (dotted : IsDotted chars) (more : List Char) :
    chars <+: (splitName (chars ++ more)).1 := by
  induction dotted with
  | run _ named =>
    rw [splitName_run named]
    exact List.prefix_append ..
  | @dot run rest _ named later ih =>
    have follows : nameFollows (rest ++ more) := later.follows more
    rw [List.append_assoc, splitName_run named, List.cons_append, splitName,
      if_pos (by simp [follows])]
    exact (List.prefix_append_right_inj run).mpr ((List.prefix_cons_inj '.').mpr ih)

theorem IsName.starts_with (name : IsName chars) : ∃ c rest, chars = c :: rest ∧ isNameStart c := by
  obtain ⟨dotted, starts⟩ := name
  cases chars with
  | nil => cases starts
  | cons c rest => exact ⟨c, rest, rfl, starts⟩

theorem IsName.of_split (first : isNameStart c) (rest : List Char) :
    IsName (c :: (splitName rest).1) :=
  ⟨(splitName_dotted rest).1 c (nameChar_of_start first), first⟩

theorem IsDigits.takeWhile (first : digitFollows rest) : IsDigits (rest.takeWhile isDigit) := by
  refine ⟨?_, fun c member => List.all_eq_true.mp List.all_takeWhile c member⟩
  cases rest with
  | nil => cases first
  | cons c rest =>
    have digit : isDigit c := first
    rw [List.takeWhile_cons_of_pos digit]
    exact List.cons_ne_nil _ _

/-- A fraction is a point with digits behind it, or nothing. -/
theorem splitFraction_digits (rest : List Char) :
    (splitFraction rest).1 = [] ∨ ∃ digits, IsDigits digits ∧
      (splitFraction rest).1 = '.' :: digits := by
  fun_cases splitFraction rest with
  | case1 d rest digit =>
    have follows : digitFollows (d :: rest) := digit
    exact .inr ⟨_, .takeWhile follows, rfl⟩
  | case2 => exact .inl rfl
  | case3 => exact .inl rfl

theorem IsNumber.of_split {sign : List Char} (signed : Number.IsSign sign)
    (first : digitFollows rest) :
    IsNumber (sign ++ (splitNumber rest).1) := by
  unfold splitNumber
  dsimp only
  rcases splitFraction_digits (rest.dropWhile isDigit) with unsplit | ⟨digits, more, point⟩
  · rw [unsplit, List.append_nil]
    exact .whole signed (.takeWhile first)
  · rw [point]
    exact .fraction signed (.takeWhile first) more

/-- Digits around a point are split off to their end. -/
theorem splitNumber_longest {digits : List Char} (whole : ∀ c ∈ digits, isDigit c)
    (more : List Char) :
    digits <+: (splitNumber (digits ++ more)).1 ∧
      (∀ fraction, IsDigits fraction →
        digits ++ '.' :: fraction <+: (splitNumber (digits ++ '.' :: fraction ++ more)).1) := by
  have point : isDigit '.' = false := by decide
  refine ⟨?_, fun fraction behind => ?_⟩
  · rw [splitNumber, List.takeWhile_append_of_pos whole, List.append_assoc]
    exact List.prefix_append ..
  · obtain ⟨visible, all⟩ := behind
    obtain ⟨d, fraction, rfl⟩ := List.exists_cons_of_ne_nil visible
    have first : isDigit d := all d List.mem_cons_self
    have taken : (d :: fraction ++ more).takeWhile isDigit =
      d :: fraction ++ more.takeWhile isDigit :=
      List.takeWhile_append_of_pos all
    rw [splitNumber, List.append_assoc, List.takeWhile_append_of_pos whole,
      List.dropWhile_append_of_pos whole]
    rw [List.cons_append, List.takeWhile_cons, List.dropWhile_cons, point, List.cons_append]
    simp only [Bool.false_eq_true, if_false, List.append_nil, splitFraction, first, if_true]
    rw [List.prefix_append_right_inj, List.prefix_cons_inj, ← List.cons_append, taken]
    exact List.prefix_append ..

end

/-! ## Texts in quotes -/

/-- Characters between quotes on one line and what they stand for. A backslash takes the character
behind it along. -/
inductive Quoted (quote : Char) : List Char → List Char → Prop
  | none : Quoted quote [] []
  | plain {c : Char} {chars value : List Char} (ends : c ≠ quote) (bare : c ≠ '\\')
      (line : c ≠ '\n') (later : Quoted quote chars value) : Quoted quote (c :: chars) (c :: value)
  | escape {chars value : List Char} (c : Char) (later : Quoted quote chars value) :
      Quoted quote ('\\' :: c :: chars) (escapeValue c ++ value)

section

variable {quote : Char} {source chars value : List Char} {inner : Contents}

theorem contents?_quoted (found : contents? quote source = some inner) :
    ∃ chars, inner.raw = chars ++ [quote] ∧ Quoted quote chars inner.value := by
  fun_induction contents? quote source generalizing inner with
  | case1 => cases found
  | case2 => cases found
  | case3 rest line =>
    obtain rfl := Option.some.inj found
    exact ⟨[], rfl, .none⟩
  | case4 => cases found
  | case5 e rest _ _ ih =>
    obtain ⟨deeper, closed, rfl⟩ := Option.map_eq_some_iff.mp found
    obtain ⟨chars, raw, quoted⟩ := ih closed
    exact ⟨'\\' :: e :: chars, by rw [raw]; rfl, .escape e quoted⟩
  | case6 c rest line ends escape ih =>
    obtain ⟨deeper, closed, rfl⟩ := Option.map_eq_some_iff.mp found
    obtain ⟨chars, raw, quoted⟩ := ih closed
    exact ⟨c :: chars, by rw [raw]; rfl, .plain ends escape line quoted⟩

/-- A quote character is neither a backslash nor the end of a line. -/
theorem quote_plain (quotes : quote = '"' ∨ quote = '\'') : quote ≠ '\\' ∧ quote ≠ '\n' := by
  rcases quotes with rfl | rfl <;> decide

theorem Quoted.contents? (quoted : Quoted quote chars value) (quotes : quote = '"' ∨ quote = '\'')
    (behind : List Char) :
    contents? quote (chars ++ quote :: behind) = some ⟨value, chars ++ [quote], behind⟩ := by
  obtain ⟨bare, line⟩ := quote_plain quotes
  induction quoted with
  | none =>
    rw [List.nil_append, contents?.eq_def]
    simp [line]
  | plain ends bare line later ih =>
    rw [List.cons_append, contents?.eq_def]
    simp [ends, bare, line, ih]
  | escape c later ih =>
    rw [List.cons_append, List.cons_append, contents?.eq_def]
    simp [bare.symm, ih]

end

/-! ## Lexemes -/

/-- The operators as they are written. -/
def operators : List (List Char) :=
  [['=', '='], ['!', '='], ['?', '?'], ['='], ['+']]

/-- The kind and the characters of a token, and the lexeme that it is written as. -/
inductive Lexeme : TokenKind → List Char → List Char → Prop
  | keyword {chars : List Char} (name : IsName chars) (listed : String.ofList chars ∈ keywords) :
      Lexeme .keyword chars chars
  | name {chars : List Char} (name : IsName chars) (other : String.ofList chars ∉ keywords) :
      Lexeme .name chars chars
  | dollarName {chars : List Char} (name : IsName chars) : Lexeme .dollarName chars ('$' :: chars)
  | number {chars : List Char} (number : IsNumber chars) : Lexeme .number chars chars
  | symbol {c : Char} {kind : TokenKind} (means : punctuation? c = some kind) : Lexeme kind [c] [c]
  | operator {chars : List Char} (listed : chars ∈ operators) : Lexeme .operator chars chars
  | string {quote : Char} {inside value : List Char} (quotes : quote = '"' ∨ quote = '\'')
      (inner : Quoted quote inside value) :
      Lexeme .string value (quote :: (inside ++ [quote]))
  | block {inside : List Char} (first : ¬ ['"', '"', '"'] <:+: inside ++ ['"', '"']) :
      Lexeme .block (Text.cleanBlock inside) ('"' :: '"' :: '"' :: (inside ++ ['"', '"', '"']))

section

variable {c : Char} {rest source chars lexeme behind other : List Char} {kind : TokenKind}

/-- A name is a keyword exactly if it is listed as one. -/
theorem Lexeme.word (name : IsName chars) : Lexeme (nameKind chars) chars chars := by
  unfold nameKind
  split
  · rename_i listed
    exact .keyword name (List.contains_iff_mem.mp listed)
  · rename_i other
    exact .name name fun listed => other (List.contains_iff_mem.mpr listed)

/-- What the lexer takes for a token is a lexeme of it. -/
theorem Spells.toLexeme (spells : Spells source kind chars lexeme behind) :
    Lexeme kind chars lexeme := by
  cases spells with
  | block closed => exact .block ((splitAtMark?_iff (List.cons_ne_nil _ _)).mp closed).2
  | string quotes _ closed =>
    obtain ⟨inside, raw, inner⟩ := contents?_quoted closed
    rw [raw]
    exact .string quotes inner
  | @dollarName rest starts =>
    cases rest with
    | nil => cases starts
    | cons c rest =>
      have first : isNameStart c := starts
      rw [splitName, if_pos (by simp [nameChar_of_start first])]
      exact .dollarName (.of_split first rest)
  | @number c rest first =>
    rcases Bool.or_eq_true_iff.mp first with digit | signed
    · have same : c :: (splitNumber rest).1 = (splitNumber (c :: rest)).1 := by
        simp [splitNumber, digit]
      have follows : digitFollows (c :: rest) := digit
      rw [same]
      exact .number (.of_split (.inl rfl) follows)
    · obtain ⟨minus, digit⟩ := Bool.and_eq_true_iff.mp signed
      obtain rfl := of_decide_eq_true minus
      exact .number (.of_split (.inr rfl) digit)
  | name first => exact .word (.of_split first _)
  | symbol means => exact .symbol means
  | double pair =>
    rcases isPair_iff.mp pair with ⟨rfl | rfl, rfl⟩ | ⟨rfl, rfl⟩ <;> exact .operator (by decide)
  | single one => rcases one with rfl | rfl <;> exact .operator (by decide)

end

/-! ## The longest lexeme -/

/-- The ranges of a table start one behind the other. -/
abbrev Ascending (ranges : List (Nat × Nat)) : Prop :=
  (ranges.map Prod.fst).IsChain (· ≤ ·)

/-- No range of one table meets a range of the other. Both tables are gone through once, from their
front on. -/
def missEachOther (ranges : List (Nat × Nat)) : List (Nat × Nat) → Bool
  | [] => true
  | other :: others =>
    let behind := ranges.dropWhile fun range => range.2 < other.1
    behind.head?.all (fun range => other.2 < range.1) && missEachOther behind others

theorem apart_of_missEachOther {ranges others : List (Nat × Nat)}
    (ascends : ranges.Pairwise (·.1 ≤ ·.1)) (ascend : others.Pairwise (·.1 ≤ ·.1))
    (miss : missEachOther ranges others) :
    ∀ range ∈ ranges, ∀ other ∈ others, range.2 < other.1 ∨ other.2 < range.1 := by
  induction others generalizing ranges with
  | nil => exact fun _ _ _ member => nomatch member
  | cons first others ih =>
    rw [missEachOther, Bool.and_eq_true] at miss
    obtain ⟨next, later⟩ := miss
    obtain ⟨lowest, rest⟩ := List.pairwise_cons.mp ascend
    have remaining :=
      ascends.sublist (List.dropWhile_sublist fun range => decide (range.2 < first.1))
    intro range member other listed
    rw [← @List.takeWhile_append_dropWhile _ (fun range => decide (range.2 < first.1)) ranges,
      List.mem_append] at member
    rcases member with front | behind
    · have before : range.2 < first.1 := by
        simpa using List.all_eq_true.mp List.all_takeWhile range front
      rcases List.mem_cons.mp listed with rfl | more
      · exact .inl before
      · exact .inl (Nat.lt_of_lt_of_le before (lowest other more))
    · rcases List.mem_cons.mp listed with rfl | more
      · obtain ⟨nearest, further, same⟩ := List.exists_cons_of_ne_nil (List.ne_nil_of_mem behind)
        rw [same] at next behind remaining
        have behind' : other.2 < nearest.1 := by simpa using next
        rcases List.mem_cons.mp behind with rfl | far
        · exact .inr behind'
        · exact .inr (Nat.lt_of_lt_of_le behind' ((List.pairwise_cons.mp remaining).1 range far))
      · exact ih remaining rest later range behind other more

/-- No range of one table meets a range of the other. -/
def Apart (ranges others : Array (Nat × Nat)) : Prop :=
  ∀ range ∈ ranges.toList, ∀ other ∈ others.toList, range.2 < other.1 ∨ other.2 < range.1

theorem letterRanges_apart : Apart Text.letterRanges Text.digitRanges := by
  have ascending {ranges : List (Nat × Nat)} (ascends : Ascending ranges) :
    ranges.Pairwise (·.1 ≤ ·.1) :=
    List.pairwise_map.mp (List.isChain_iff_pairwise.mp ascends)
  exact apart_of_missEachOther (ascending (by decide +kernel)) (ascending (by decide +kernel))
    (by decide +kernel)

theorem Apart.outside {ranges others : Array (Nat × Nat)} (apart : Apart ranges others) {code : Nat}
    (inside : Text.within ranges code) : Text.within others code = false := by
  unfold Text.within at inside ⊢
  rw [← Array.any_toList, List.any_eq_true] at inside
  rw [← Array.any_toList, List.any_eq_false]
  obtain ⟨range, member, low⟩ := inside
  intro other listed high
  simp only [Bool.and_eq_true, decide_eq_true_eq] at low high
  have different := apart range member other listed
  omega

/-- What a name can start with is no digit. -/
theorem undigited_of_start {c : Char} (starts : isNameStart c) : isDigit c = false := by
  by_cases ascii : c.toNat < 0x80
  · have listed : ∀ code < 0x80, isNameStart (Char.ofNat code) →
        isDigit (Char.ofNat code) = false := by decide +kernel
    have undigited := listed c.toNat ascii
    rw [Char.ofNat_toNat] at undigited
    exact undigited starts
  · have wide : c ≠ '_' := by
      rintro rfl
      exact ascii (by decide)
    have letter : Text.within Text.letterRanges c.toNat := by
      simpa [isNameStart, isLetter, ascii, wide] using starts
    simp [isDigit, ascii, letterRanges_apart.outside letter]

section

variable {c : Char} {rest chars lexeme behind other : List Char} {kind : TokenKind}
  {found : Piece (c :: rest)}

theorem Piece.front (found : Piece (c :: rest)) : [c] <+: found.lexeme := by
  obtain ⟨d, more, same⟩ := List.exists_cons_of_ne_nil found.visible
  have whole := found.whole
  rw [same] at whole
  obtain ⟨rfl, -⟩ := List.cons.inj whole
  rw [same]
  exact List.prefix_append [d] more

/-- What stands behind a piece tells how far it goes. -/
theorem Piece.lexeme_eq {source front back : List Char} {found : Piece source}
    (rest : found.rest = back) (whole : front ++ back = source) : found.lexeme = front := by
  have same := found.whole.trans whole.symm
  rw [rest] at same
  exact List.append_cancel_right same

theorem Spells.lexeme_eq (spells : Spells (c :: rest) kind chars lexeme behind)
    (fits : Lexer.piece c rest = .ok found) :
    found.lexeme = lexeme := by
  obtain ⟨again, same, -, ends⟩ := spells.piece
  obtain rfl := Except.ok.inj (same.symm.trans fits)
  exact again.lexeme_eq ends spells.whole

theorem IsName.longest (name : IsName other) (starts : other <+: c :: rest)
    (fits : piece c rest = .ok found) :
    other <+: found.lexeme := by
  obtain ⟨d, chars, rfl, first⟩ := name.starts_with
  obtain ⟨more, whole⟩ := starts
  obtain ⟨rfl, rfl⟩ := List.cons.inj whole
  have longest := name.dotted.longest more
  rw [List.cons_append, splitName, if_pos (by simp [nameChar_of_start first])] at longest
  rw [(Spells.name first (undigited_of_start first)).lexeme_eq fits]
  exact longest

theorem dollarName_longest (name : IsName other) (starts : '$' :: other <+: c :: rest)
    (fits : piece c rest = .ok found) :
    '$' :: other <+: found.lexeme := by
  obtain ⟨more, whole⟩ := starts
  obtain ⟨rfl, rfl⟩ := List.cons.inj whole
  have longest := name.dotted.longest more
  obtain ⟨d, chars, rfl, first⟩ := name.starts_with
  have front : (d :: chars ++ more).head?.any isNameStart := first
  rw [(Spells.dollarName front).lexeme_eq fits]
  exact (List.prefix_cons_inj '$').mpr longest

/-- A number goes on behind its sign as far as its digits do. -/
theorem IsNumber.split (number : IsNumber chars) :
    ∃ sign digits, chars = sign ++ digits ∧ Number.IsSign sign ∧
    ∀ more, digitFollows (digits ++ more) ∧ digits <+: (splitNumber (digits ++ more)).1 := by
  have follows {digits : List Char} (body : IsDigits digits) (more : List Char) :
      digitFollows (digits ++ more) := by
    obtain ⟨d, others, rfl⟩ := List.exists_cons_of_ne_nil body.visible
    exact body.digits d List.mem_cons_self
  cases number with
  | @whole sign digits signed body =>
    exact ⟨sign, digits, rfl, signed,
      fun more => ⟨follows body more, (splitNumber_longest body.digits more).1⟩⟩
  | @fraction sign digits behind signed body point =>
    refine ⟨sign, digits ++ '.' :: behind, rfl, signed,
      fun more => ⟨?_, (splitNumber_longest body.digits more).2 _ point⟩⟩
    rw [List.append_assoc]
    exact follows body _

theorem IsNumber.longest (number : IsNumber other) (starts : other <+: c :: rest)
    (fits : piece c rest = .ok found) :
    other <+: found.lexeme := by
  obtain ⟨sign, digits, rfl, signed, longest⟩ := number.split
  obtain ⟨more, whole⟩ := starts
  obtain ⟨follows, front⟩ := longest more
  rcases signed with rfl | rfl
  · rw [List.nil_append] at whole ⊢
    rw [whole] at follows front
    have digit : isDigit c := follows
    have same : (splitNumber (c :: rest)).1 = c :: (splitNumber rest).1 := by
      simp [splitNumber, digit]
    have spells : Spells (c :: rest) .number _ _ _ := .number (by simp [digit])
    rw [spells.lexeme_eq fits, ← same]
    exact front
  · obtain ⟨rfl, rfl⟩ := List.cons.inj whole
    have spells : Spells ('-' :: (digits ++ more)) .number _ _ _ := .number (by simp [follows])
    rw [spells.lexeme_eq fits]
    exact (List.prefix_cons_inj '-').mpr front

theorem operator_longest (listed : other ∈ operators) (starts : other <+: c :: rest)
    (fits : piece c rest = .ok found) :
    other <+: found.lexeme := by
  obtain ⟨more, whole⟩ := starts
  have pair {first second : Char} (pair : isPair first second)
      (same : [first, second] ++ more = c :: rest) :
      [first, second] <+: found.lexeme := by
    obtain ⟨rfl, rfl⟩ := List.cons.inj same
    have spells : Spells (first :: second :: more) .operator _ _ _ := .double pair
    exact spells.lexeme_eq fits ▸ List.prefix_rfl
  have single {first : Char} (same : [first] ++ more = c :: rest) : [first] <+: found.lexeme := by
    obtain ⟨rfl, rfl⟩ := List.cons.inj same
    exact found.front
  simp only [operators, List.mem_cons, List.not_mem_nil, or_false] at listed
  rcases listed with rfl | rfl | rfl | rfl | rfl
  · exact pair rfl whole
  · exact pair rfl whole
  · exact pair rfl whole
  · exact single whole
  · exact single whole

theorem blockText_front {found : Piece ('"' :: '"' :: '"' :: rest)}
    (fits : blockText rest = .ok found) :
    ['"', '"'] <+: found.lexeme := by
  unfold blockText at fits
  split at fits <;> cases fits
  exact List.prefix_append ['"', '"'] _

theorem Quoted.head {quote : Char} {inside value more : List Char} (bare : quote ≠ '\\')
    (inner : Quoted quote inside value) (front : [quote] <+: inside ++ more) : inside = [] := by
  cases inner with
  | none => rfl
  | plain ends =>
    obtain ⟨others, same⟩ := front
    exact absurd (List.cons.inj same).1.symm ends
  | escape =>
    obtain ⟨others, same⟩ := front
    exact absurd (List.cons.inj same).1 bare

/-- A text in quotes is taken to its end. Two quotes may open a block, which is longer. -/
theorem Quoted.longest {quote : Char} {inside value : List Char}
    (quotes : quote = '"' ∨ quote = '\'') (inner : Quoted quote inside value)
    (starts : quote :: (inside ++ [quote]) <+: c :: rest) (fits : piece c rest = .ok found) :
    quote :: (inside ++ [quote]) <+: found.lexeme := by
  obtain ⟨more, whole⟩ := starts
  rw [List.cons_append, List.append_assoc, List.singleton_append] at whole
  obtain ⟨rfl, rfl⟩ := List.cons.inj whole
  by_cases opens : quote = '"' ∧ ['"', '"'] <+: inside ++ quote :: more
  · obtain ⟨rfl, double⟩ := opens
    obtain rfl := inner.head (by decide) ((List.prefix_append ['"'] ['"']).trans double)
    obtain ⟨others, same⟩ := double
    obtain rfl : '"' :: others = more := (List.cons.inj same).2
    exact blockText_front fits
  · have spells := Spells.string quotes (fun double => fun front => opens ⟨double, front⟩)
      (inner.contents? quotes more)
    exact spells.lexeme_eq fits ▸ List.prefix_rfl

theorem block_longest {inside : List Char} (first : ¬ ['"', '"', '"'] <:+: inside ++ ['"', '"'])
    (starts : '"' :: '"' :: '"' :: (inside ++ ['"', '"', '"']) <+: c :: rest)
    (fits : piece c rest = .ok found) :
    '"' :: '"' :: '"' :: (inside ++ ['"', '"', '"']) <+: found.lexeme := by
  obtain ⟨more, whole⟩ := starts
  simp only [List.cons_append, List.append_assoc] at whole
  obtain ⟨rfl, rfl⟩ := List.cons.inj whole
  have closed : splitAtMark? ['"', '"', '"'] (inside ++ (['"', '"', '"'] ++ more)) =
    some (inside, more) :=
    (splitAtMark?_iff (List.cons_ne_nil _ _)).mpr ⟨rfl, first⟩
  exact (Spells.block closed).lexeme_eq fits ▸ List.prefix_rfl

/-- No lexeme at the front of a text is longer than the piece that the lexer finds there. -/
theorem Lexeme.longest (written : Lexeme kind chars other) (starts : other <+: c :: rest)
    (fits : piece c rest = .ok found) :
    other <+: found.lexeme := by
  cases written with
  | keyword name => exact name.longest starts fits
  | name name => exact name.longest starts fits
  | dollarName name => exact dollarName_longest name starts fits
  | number number => exact number.longest starts fits
  | symbol =>
    obtain ⟨more, whole⟩ := starts
    obtain ⟨rfl, rfl⟩ := List.cons.inj whole
    exact found.front
  | operator listed => exact operator_longest listed starts fits
  | string quotes inner => exact inner.longest quotes starts fits
  | block first => exact block_longest first starts fits

end

end BotScript.Lexer
