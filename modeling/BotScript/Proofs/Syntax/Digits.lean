import BotScript.Proofs.Number.Counting
import BotScript.Proofs.Syntax.Decides
import BotScript.Proofs.Syntax.Spelling

/-! The digits of a source. Where its digits can be converted, so can those of everything that is
cut out of it: of its tokens, of texts whose escapes are resolved or whose indentation is taken
away, and of the holes in these. -/

namespace BotScript

namespace Text

open Number Template

variable {before : Nat} {chars : List Char} {lines : List (List Char)}

/-! ## Blocks -/

theorem counted_blanks {count : Nat} (counted : Counted 0 chars) :
    Counted before (List.replicate (count + 1) ' ' ++ chars) := by
  induction count generalizing before with
  | zero => exact (counted_other (by decide)).mpr counted
  | succ count ih => exact (counted_other (by decide)).mpr ih

theorem expandTabs_counted (column : Nat) (counted : Counted before chars) :
    Counted before (expandTabs column chars) := by
  induction chars generalizing before column with
  | nil => trivial
  | cons c rest ih =>
    rw [expandTabs]
    split
    · obtain ⟨count, same⟩ : ∃ count, 8 - column % 8 = count + 1 := ⟨7 - column % 8, by omega⟩
      rw [same]
      exact counted_blanks (ih _ counted.tail)
    split <;> exact counted.behind fun _ more => ih _ more

theorem expandTabs_braces (column : Nat) :
    openBraces (expandTabs column chars) = openBraces chars := by
  unfold openBraces
  induction chars generalizing column with
  | nil => rfl
  | cons c rest ih =>
    rw [expandTabs]
    split
    · rename_i tab
      simp [tab, List.count_replicate, ih]
    split
    · simp [List.count_cons, ih]
    · simp [List.count_cons, ih]

/-- All opening braces in some lines. -/
def lineBraces (lines : List (List Char)) : Nat :=
  (lines.map openBraces).sum

theorem splitLines_some : splitLines chars ≠ [] := by
  cases chars with
  | nil => simp [splitLines]
  | cons c rest =>
    rw [splitLines]
    split
    · simp
    · split <;> simp

theorem splitLines_counted (counted : Counted before chars) :
    ∃ line others, splitLines chars = line :: others ∧ Counted before line ∧
      ∀ other ∈ others, Counted 0 other := by
  induction chars generalizing before with
  | nil => exact ⟨[], [], rfl, trivial, by simp⟩
  | cons c rest ih =>
    rw [splitLines]
    by_cases digit : Text.isDigit c
    · obtain ⟨decimal, few, more⟩ := (counted_digit digit).mp counted
      obtain ⟨line, others, same, first, later⟩ := ih more
      have plain : c ≠ '\n' := by
        rintro rfl
        exact absurd digit (by decide)
      rw [same]
      exact ⟨c :: line, others, by simp [plain],
        (counted_digit digit).mpr ⟨decimal, few, first⟩, later⟩
    · have other : Text.isDigit c = false := by simpa using digit
      obtain ⟨line, others, same, first, later⟩ := ih ((counted_other other).mp counted)
      rw [same]
      by_cases breaks : c = '\n'
      · refine ⟨[], line :: others, by simp [breaks], trivial, fun next member => ?_⟩
        rcases List.mem_cons.mp member with rfl | member
        · exact first
        · exact later next member
      · exact ⟨c :: line, others, by simp [breaks], (counted_other other).mpr first, later⟩

theorem splitLines_braces : lineBraces (splitLines chars) = openBraces chars := by
  induction chars with
  | nil => rfl
  | cons c rest ih =>
    rw [splitLines]
    split
    · rename_i empty
      exact absurd empty splitLines_some
    · rename_i line others same
      rw [same] at ih
      split
      · rename_i breaks
        simp_all [lineBraces, openBraces]
      · simp_all only [lineBraces, openBraces, List.map_cons, List.sum_cons, List.count_cons]
        omega

theorem joinLines_cons {line : List Char} (nonempty : lines ≠ []) :
    joinLines (line :: lines) = line ++ '\n' :: joinLines lines := by
  obtain ⟨next, others, rfl⟩ := List.exists_cons_of_ne_nil nonempty
  simp [joinLines, List.intercalate]

theorem Counted.append_break {front back : List Char} (first : Counted before front)
    (later : Counted 0 back) :
    Counted before (front ++ '\n' :: back) := by
  induction front generalizing before with
  | nil => exact (counted_other (by decide)).mpr later
  | cons c front ih =>
    exact first.behind fun _ more => ih more

theorem joinLines_counted (counted : ∀ line ∈ lines, Counted 0 line) :
    Counted 0 (joinLines lines) := by
  induction lines with
  | nil => trivial
  | cons line lines ih =>
    have later := ih fun other member => counted other (List.mem_cons_of_mem _ member)
    have first := counted line List.mem_cons_self
    by_cases last : lines = []
    · subst last
      simpa [joinLines] using first
    · rw [joinLines_cons last]
      exact Counted.append_break first later

theorem joinLines_braces : openBraces (joinLines lines) = lineBraces lines := by
  induction lines with
  | nil => rfl
  | cons line lines ih =>
    by_cases last : lines = []
    · subst last
      simp [joinLines, lineBraces]
    · rw [joinLines_cons last]
      simp_all [openBraces, lineBraces]


/-- What is left of each line, and some lines at both ends fewer. -/
theorem cleanLines_kept (lines : List (List Char)) :
    ∃ body, List.Forall₂ (· <:+ ·) body lines ∧ (cleanLines lines).Sublist body := by
  have within (body : List (List Char)) :
      ((body.dropWhile List.isEmpty).reverse.dropWhile List.isEmpty).reverse.Sublist body := by
    have front :=
      (List.dropWhile_suffix List.isEmpty (l :=
        (body.dropWhile List.isEmpty).reverse)).sublist.reverse
    rw [List.reverse_reverse] at front
    exact front.trans (List.dropWhile_suffix List.isEmpty).sublist
  cases lines with
  | nil => exact ⟨[], .nil, within []⟩
  | cons first others =>
    refine ⟨trimLeft first :: others.map (List.drop (margin others)),
      .cons (trimLeft_suffix first) ?_, within _⟩
    generalize margin others = margin
    induction others with
    | nil => exact .nil
    | cons line others ih => exact .cons (List.drop_suffix margin line) ih

theorem lineBraces_sublist {kept : List (List Char)} (part : kept.Sublist lines) :
    lineBraces kept ≤ lineBraces lines := by
  induction part with
  | slnil => exact Nat.le_refl _
  | cons line _ ih => simpa [lineBraces] using Nat.le_trans ih (Nat.le_add_left _ _)
  | cons_cons line _ ih => simpa [lineBraces] using ih

theorem lineBraces_suffixes {kept : List (List Char)} (each : List.Forall₂ (· <:+ ·) kept lines) :
    lineBraces kept ≤ lineBraces lines := by
  induction each with
  | nil => exact Nat.le_refl _
  | cons first _ ih =>
    have fewer : openBraces _ ≤ openBraces _ := first.sublist.count_le '{'
    simp only [lineBraces, List.map_cons, List.sum_cons] at ih ⊢
    omega

theorem cleanLines_counted (counted : ∀ line ∈ lines, Counted 0 line) :
    ∀ line ∈ cleanLines lines, Counted 0 line := by
  obtain ⟨body, each, part⟩ := cleanLines_kept lines
  intro line member
  obtain ⟨whole, listed, suffix⟩ : ∃ whole ∈ lines, line <:+ whole := by
    have inside := part.subset member
    clear counted member part
    induction each with
    | nil => cases inside
    | cons first _ ih =>
      rcases List.mem_cons.mp inside with rfl | inside
      · exact ⟨_, List.mem_cons_self, first⟩
      · obtain ⟨whole, listed, suffix⟩ := ih inside
        exact ⟨whole, List.mem_cons_of_mem _ listed, suffix⟩
  exact (counted whole listed).part suffix.isInfix

theorem cleanBlock_counted (counted : Counted 0 chars) : Counted 0 (cleanBlock chars) := by
  obtain ⟨line, others, same, first, later⟩ := splitLines_counted (expandTabs_counted 0 counted)
  refine joinLines_counted (cleanLines_counted fun next member => ?_)
  rw [same] at member
  rcases List.mem_cons.mp member with rfl | member
  · exact first
  · exact later next member

theorem cleanBlock_braces : openBraces (cleanBlock chars) ≤ openBraces chars := by
  obtain ⟨body, each, part⟩ := cleanLines_kept (splitLines (expandTabs 0 chars))
  calc openBraces (cleanBlock chars)
    _ = lineBraces (cleanLines (splitLines (expandTabs 0 chars))) := joinLines_braces
    _ ≤ lineBraces body := lineBraces_sublist part
    _ ≤ lineBraces (splitLines (expandTabs 0 chars)) := lineBraces_suffixes each
    _ = openBraces (expandTabs 0 chars) := splitLines_braces
    _ = openBraces chars := expandTabs_braces 0

end Text

/-! ## Holes -/

namespace Template

open Number

variable {source chars : List Char}

theorem mem_push_hole {c : Char} {all : Parts} :
    .hole chars ∈ (all.push c).parts ↔ .hole chars ∈ all.parts := by
  unfold Parts.push
  split <;> simp_all

/-- A hole stands in its text behind a brace. -/
theorem hole_inside (listed : .hole chars ∈ (cut source).parts) :
    ∃ inside, '{' :: inside <:+: source ∧ chars <:+: inside := by
  have deeper (front : List Char) {rest : List Char} :
      (∃ inside, '{' :: inside <:+: rest ∧ chars <:+: inside) →
        ∃ inside, '{' :: inside <:+: front ++ rest ∧ chars <:+: inside :=
    fun ⟨inside, part, kept⟩ => ⟨inside, part.trans (List.suffix_append front rest).isInfix, kept⟩
  fun_induction cut source with
  | case1 => cases listed
  | case2 => simp at listed
  | case3 d rest _ ih => exact deeper ['\\', d] (ih (mem_push_hole.mp listed))
  | case4 d rest _ ih => exact deeper ['\\'] (ih (mem_push_hole.mp listed))
  | case5 => cases listed
  | case6 => cases listed
  | case7 rest inside behind found hole _ all _ ih =>
    have whole := holeEnd?_whole found
    rcases List.mem_cons.mp listed with same | listed
    · obtain rfl := Part.hole.inj same
      refine ⟨inside, ⟨[], '}' :: behind, ?_⟩, Text.trim_infix inside⟩
      rw [← whole]
      rfl
    · rw [← whole]
      have split : '{' :: (inside ++ '}' :: behind) = '{' :: (inside ++ ['}']) ++ behind := by simp
      rw [split]
      exact deeper _ (ih listed)
  | case8 d rest _ _ ih => exact deeper [d] (ih (mem_push_hole.mp listed))

theorem hole_counted (listed : .hole chars ∈ (cut source).parts) (counted : Counted 0 source) :
    Counted 0 chars := by
  obtain ⟨inside, part, kept⟩ := hole_inside listed
  exact (counted.part part).tail.part kept

/-- A hole has fewer opening braces than its text. -/
theorem hole_braces (listed : .hole chars ∈ (cut source).parts) :
    openBraces chars < openBraces source := by
  obtain ⟨inside, part, kept⟩ := hole_inside listed
  have whole : openBraces ('{' :: inside) ≤ openBraces source := part.sublist.count_le '{'
  have inner : openBraces chars ≤ openBraces inside := kept.sublist.count_le '{'
  have brace : openBraces ('{' :: inside) = openBraces inside + 1 := List.count_cons_self
  omega

end Template

/-! ## Tokens -/

namespace Lexer

open Number Template

variable {before : Nat} {source rest : List Char} {quote c : Char} {inner : Contents}

/-- A text in quotes is counted as far as its source is: escapes only take away backslashes. -/
theorem contents?_counted (counted : Counted before source)
    (found : contents? quote source = some inner) :
    Counted before inner.value := by
  fun_induction contents? quote source generalizing before inner with
  | case1 => cases found
  | case2 => cases found
  | case3 =>
    obtain rfl := Option.some.inj found
    trivial
  | case4 => cases found
  | case5 e rest _ _ ih =>
    obtain ⟨deeper, closed, rfl⟩ := Option.map_eq_some_iff.mp found
    have behind : Counted 0 (e :: deeper.value) := counted.tail.behind fun _ more => ih more closed
    unfold escapeValue
    split
    · exact (counted_other (by decide)).mpr behind.tail
    split
    · exact (counted_other (by decide)).mpr behind.tail
    split
    · exact (counted_other (by decide)).mpr behind.tail
    split
    · rename_i quoted
      have other : Text.isDigit e = false := by
        rcases Bool.or_eq_true_iff.mp quoted with same | same <;>
          rw [of_decide_eq_true same] <;> decide
      exact (counted_other other).mpr behind.tail
    · exact (counted_other (by decide)).mpr behind
  | case6 c rest _ _ _ ih =>
    obtain ⟨deeper, closed, rfl⟩ := Option.map_eq_some_iff.mp found
    exact counted.behind fun _ more => ih more closed

theorem contents?_braces (found : contents? quote source = some inner) :
    openBraces inner.value ≤ openBraces source := by
  unfold openBraces
  fun_induction contents? quote source generalizing inner with
  | case1 => cases found
  | case2 => cases found
  | case3 =>
    obtain rfl := Option.some.inj found
    exact Nat.zero_le _
  | case4 => cases found
  | case5 e rest _ _ ih =>
    obtain ⟨deeper, closed, rfl⟩ := Option.map_eq_some_iff.mp found
    have fewer := ih closed
    have escaped : (escapeValue e).count '{' ≤ [e].count '{' := by
      unfold escapeValue
      split_ifs <;> simp
    simp only [List.count_append, List.count_cons, List.count_nil] at escaped ⊢
    omega
  | case6 c rest _ _ _ ih =>
    obtain ⟨deeper, closed, rfl⟩ := Option.map_eq_some_iff.mp found
    have fewer := ih closed
    simp only [List.count_cons]
    omega

/-- Digits behind a sign or none, with a fraction if there is one. -/
theorem splitNumber_numeral {sign : List Char} (signed : IsSign sign)
    (counted : Counted 0 (splitNumber source).1) (digit : digitFollows source) :
    IsNumeral (sign ++ (splitNumber source).1) := by
  obtain ⟨c, behind, rfl⟩ : ∃ c behind, source = c :: behind := by
    cases source with
    | nil => cases digit
    | cons c behind => exact ⟨c, behind, rfl⟩
  have nonempty : (c :: behind).takeWhile Text.isDigit ≠ [] := by
    have first : Text.isDigit c := digit
    rw [List.takeWhile_cons_of_pos first]
    exact List.cons_ne_nil _ _
  unfold splitNumber at counted ⊢
  dsimp only at counted ⊢
  obtain ⟨whole, few⟩ := counted.left.takeWhile nonempty
  rw [Nat.zero_add] at few
  generalize (c :: behind).takeWhile Text.isDigit = digits at counted whole few
  generalize (c :: behind).dropWhile Text.isDigit = others at counted
  revert counted
  fun_cases splitFraction others with
  | case1 d rest more =>
    intro counted
    have part : (d :: rest).takeWhile Text.isDigit ≠ [] := by
      rw [List.takeWhile_cons_of_pos more]
      exact List.cons_ne_nil _ _
    exact .fraction signed whole (counted.right.tail.takeWhile part).1
  | case2 => intro; simpa using .integer signed whole few
  | case3 => intro; simpa using .integer signed whole few

/-- A token of this kind is a word: a keyword, a name or a variable. -/
def isWord : TokenKind → Bool
  | .keyword | .name | .dollarName => true
  | _ => false

/-- What a token is taken from: its digits are counted as those of the source are, it has no more
opening braces, it is a numeral as soon as its digits can be converted if it is a number, and it
starts as names do if it is a word. -/
structure Taken (source : List Char) (kind : TokenKind) (chars : List Char) : Prop where
  counted : Counted 0 source → Counted 0 chars
  braces : openBraces chars ≤ openBraces source
  numeral : kind = .number → Counted 0 chars → IsNumeral chars
  word : isWord kind → chars.head?.any isNameStart

theorem Taken.of_other {kind : TokenKind} {chars : List Char}
    (counted : Counted 0 source → Counted 0 chars) (braces : openBraces chars ≤ openBraces source)
    (other : kind ≠ .number ∧ isWord kind = false) :
    Taken source kind chars :=
  ⟨counted, braces, fun same => absurd same other.1, fun word => absurd word (by simp [other.2])⟩

theorem Taken.of_slice {kind : TokenKind} {chars : List Char} (part : chars <:+: source)
    (other : kind ≠ .number ∧ isWord kind = false) : Taken source kind chars :=
  .of_other (fun counted => counted.part part) (part.sublist.count_le '{') other

theorem Taken.of_word {kind : TokenKind} {chars : List Char} (part : chars <:+: source)
    (other : kind ≠ .number) (starts : chars.head?.any isNameStart) : Taken source kind chars :=
  ⟨fun counted => counted.part part, part.sublist.count_le '{', fun same => absurd same other,
    fun _ => starts⟩

/-- What is taken from a part is taken from the whole. -/
theorem Taken.of_part {kind : TokenKind} {chars whole : List Char} (taken : Taken source kind chars)
    (part : source <:+: whole) : Taken whole kind chars :=
  ⟨fun counted => taken.counted (counted.part part), taken.braces.trans (part.sublist.count_le '{'),
    taken.numeral,
    taken.word⟩

theorem nameKind_ne_number (chars : List Char) : nameKind chars ≠ .number := by
  unfold nameKind
  split <;> decide

theorem punctuation?_other {kind : TokenKind} (found : punctuation? c = some kind) :
    kind ≠ .number ∧ isWord kind = false := by
  unfold punctuation? at found
  split_ifs at found <;> cases found <;> decide

/-- A name starts where its text does. -/
theorem splitName_head {source : List Char} (starts : source.head?.any isNameStart) :
    (splitName source).1.head?.any isNameStart := by
  cases source with
  | nil => cases starts
  | cons c rest =>
    have first : isNameStart c := starts
    have named : isNameChar c := by
      rcases Bool.or_eq_true_iff.mp first with letter | underscore
      · simp [isNameChar, letter]
      · simp [isNameChar, underscore]
    rw [splitName, if_pos (by simp [named])]
    exact first

theorem splitName_front (source : List Char) : (splitName source).1 <+: source :=
  ⟨(splitName source).2, splitName_whole source⟩

theorem number_taken (first : Text.isDigit c || (c = '-' && digitFollows rest)) :
    Taken (c :: rest) .number (c :: (splitNumber rest).1) := by
  have part : c :: (splitNumber rest).1 <+: c :: rest :=
    ⟨(splitNumber rest).2, by simp [splitNumber_whole]⟩
  refine ⟨fun counted => counted.part part.isInfix, part.sublist.count_le '{',
    fun _ counted => ?_, nofun⟩
  rcases Bool.or_eq_true_iff.mp first with digit | signed
  · have same : (splitNumber (c :: rest)).1 = c :: (splitNumber rest).1 := by
      simp [splitNumber, digit]
    rw [← same] at counted ⊢
    exact splitNumber_numeral (.inl rfl) counted digit
  · obtain ⟨minus, digit⟩ := Bool.and_eq_true_iff.mp signed
    obtain rfl := of_decide_eq_true minus
    exact splitNumber_numeral (.inr rfl) counted.tail digit

/-- The token at the start of a text is taken from it. -/
theorem Spells.taken {kind : TokenKind} {chars lexeme behind : List Char}
    (spells : Spells source kind chars lexeme behind) :
    Taken source kind chars := by
  cases spells with
  | @block rest inside behind closed =>
    have part : inside <:+: rest := ⟨[], ['"', '"', '"'] ++ behind, splitAtMark?_whole closed⟩
    have taken : Taken inside .block (Text.cleanBlock inside) :=
      .of_other Text.cleanBlock_counted Text.cleanBlock_braces (by decide)
    exact taken.of_part (part.trans (List.suffix_append ['"', '"', '"'] rest).isInfix)
  | string _ _ closed =>
    have taken : Taken _ .string _ :=
      .of_other (fun counted => contents?_counted counted closed)
      (contents?_braces closed) (by decide)
    exact taken.of_part (List.suffix_cons _ _).isInfix
  | dollarName starts =>
    exact .of_word ((splitName_front _).isInfix.trans (List.suffix_cons _ _).isInfix) (by decide)
      (splitName_head starts)
  | number first => exact number_taken first
  | name first =>
    exact .of_word (List.prefix_cons_inj _ |>.mpr (splitName_front _)).isInfix
      (nameKind_ne_number _) first
  | symbol means => exact .of_slice (List.prefix_append [_] _).isInfix (punctuation?_other means)
  | double => exact .of_slice (List.prefix_append [_, _] _).isInfix (by decide)
  | single => exact .of_slice (List.prefix_append [_] _).isInfix (by decide)

/-- Every token of a text is taken from it. -/
theorem scan_taken {position : Position} {stream : TokenStream}
    (scanned : scan position source = .ok stream) :
    ∀ t ∈ stream.tokens, Taken source t.kind t.text.toList := by
  have read := scanned_of_scan scanned
  clear scanned
  induction read with
  | done => exact List.forall_mem_nil _
  | @blank p finish c rest found tokens fits blank later ih =>
    have behind : found.rest <:+: c :: rest := List.IsSuffix.isInfix ⟨found.lexeme, found.whole⟩
    exact fun t member => (ih t member).of_part behind
  | @token p finish c rest chars kind found tokens fits token later ih =>
    have behind : found.rest <:+: c :: rest := List.IsSuffix.isInfix ⟨found.lexeme, found.whole⟩
    refine List.forall_mem_cons.mpr ⟨?_, fun t member => (ih t member).of_part behind⟩
    rw [String.toList_ofList]
    exact (piece_spells fits token).taken

end Lexer

/-- All numerals in the tokens of a text are decimal when its digits are converted. -/
theorem Token.decimal_of_scan {source : List Char} {position : Position} {stream : TokenStream}
    (counted : Number.Counted 0 source) (scanned : Lexer.scan position source = .ok stream) :
    ∀ t ∈ stream.tokens, t.Decimal := by
  induction braces : Template.openBraces source using Nat.strong_induction_on
    generalizing source position stream with
  | _ braces ih =>
    subst braces
    intro t member
    obtain ⟨text, fewer, numeral, -⟩ := Lexer.scan_taken scanned t member
    by_cases digits : t.kind = .number
    · exact .number digits (numeral digits (text counted))
    cases quoted : t.isString with
    | false => exact .other digits quoted
    | true =>
      refine .string quoted fun chars inside part scanned inner listed => ?_
      have deeper := Template.hole_braces part
      exact ih _ (by omega) (Template.hole_counted part (text counted)) scanned rfl inner listed

end BotScript
