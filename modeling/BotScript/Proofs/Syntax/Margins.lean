import BotScript.Proofs.Number.Numerals
import BotScript.Proofs.Syntax.Spelling

/-! Blanks around a text. No blank belongs to a word or a number or closes a text in quotes, so no
token looks beyond the last character that is none; a text without comments and blocks has the same
tokens when it is trimmed. -/

namespace BotScript.Lexer

open Text (isBlank isLetter isDigit isNumeric)

section

variable {c : Char}

/-- No range of a table holds a blank beyond ASCII. -/
def Unblank (ranges : Array (Nat × Nat)) : Prop :=
  ∀ code ∈ Text.wideBlanks,
    ranges.toList.any (fun range => range.1 ≤ code && code ≤ range.2) = false

theorem Unblank.outside {ranges : Array (Nat × Nat)} (unblank : Unblank ranges) (blank : isBlank c)
    (beyond : 0x80 ≤ c.toNat) : Text.within ranges c.toNat = false := by
  unfold Text.within
  rw [← Array.any_toList]
  exact unblank _ (Text.blank_listed blank beyond)

theorem letterRanges_unblank : Unblank Text.letterRanges := by
  unfold Unblank
  decide +kernel

theorem numericRanges_unblank : Unblank Text.numericRanges := by
  unfold Unblank
  decide +kernel

theorem digitRanges_unblank : Unblank Text.digitRanges := by
  unfold Unblank
  decide +kernel

/-- A blank belongs to no word or number. -/
theorem unworded_of_blank (blank : isBlank c) : isNameChar c = false ∧ isDigit c = false := by
  by_cases ascii : c.toNat < 0x80
  · have listed : ∀ code < 0x80, isBlank (Char.ofNat code) →
        isNameChar (Char.ofNat code) = false ∧ isDigit (Char.ofNat code) = false := by
          decide +kernel
    have unworded := listed c.toNat ascii
    rw [Char.ofNat_toNat] at unworded
    exact unworded blank
  · have beyond : 0x80 ≤ c.toNat := by omega
    have underscore : c ≠ '_' := by
      rintro rfl
      exact ascii (by decide)
    simp [isNameChar, isLetter, isNumeric, isDigit, ascii, underscore,
      letterRanges_unblank.outside blank beyond, numericRanges_unblank.outside blank beyond,
      digitRanges_unblank.outside blank beyond]

theorem splitFraction_other {source : List Char} (first : source.head? ≠ some '.') :
    splitFraction source = ([], source) := by
  unfold splitFraction
  split
  · exact absurd rfl first
  · rfl

theorem unstarted_of_blank (blank : isBlank c) : isNameStart c = false := by
  by_contra starts
  rw [Bool.not_eq_false] at starts
  exact absurd (nameChar_of_start starts) (by simp [unworded_of_blank blank])

theorem isPair_blank {d : Char} (blank : isBlank d) : isPair c d = false := by
  by_contra pair
  rw [Bool.not_eq_false] at pair
  rcases isPair_iff.mp pair with ⟨-, rfl⟩ | ⟨-, rfl⟩ <;> exact absurd blank (by decide)

end

/-- A search that stops at what follows a text does not depend on it. -/
theorem while_before {more : List Char} {test : Char → Bool}
    (stops : ∀ b ∈ more.head?, test b = false) (rest : List Char) :
    (rest ++ more).takeWhile test = rest.takeWhile test ∧
    (rest ++ more).dropWhile test = rest.dropWhile test ++ more := by
  induction rest with
  | nil =>
    cases more with
    | nil => exact ⟨rfl, rfl⟩
    | cons b more => simp [stops b rfl]
  | cons c rest ih =>
    rw [List.cons_append, List.takeWhile_cons, List.takeWhile_cons, List.dropWhile_cons,
      List.dropWhile_cons, ih.1, ih.2]
    cases test c <;> exact ⟨rfl, rfl⟩

section

variable {rest more : List Char} {test : Char → Bool} (apart : ∀ b ∈ more.head?, isBlank b)

include apart

theorem head?_any_apart (visible : ∀ b, isBlank b → test b = false) :
    (rest ++ more).head?.any test = rest.head?.any test := by
  cases rest with
  | cons c rest => rfl
  | nil =>
    cases more with
    | nil => rfl
    | cons b more => exact visible b (apart b rfl)

theorem nameFollows_apart : nameFollows (rest ++ more) = nameFollows rest := by
  have next (chars : List Char) : nameFollows chars = chars.head?.any isNameChar := by
    cases chars <;> rfl
  rw [next, next, head?_any_apart apart fun b blank => (unworded_of_blank blank).1]

theorem digitFollows_apart : digitFollows (rest ++ more) = digitFollows rest := by
  have next (chars : List Char) : digitFollows chars = chars.head?.any isDigit := by
    cases chars <;> rfl
  rw [next, next, head?_any_apart apart fun b blank => (unworded_of_blank blank).2]

/-- A name does not go on behind a blank. -/
theorem splitName_apart :
    splitName (rest ++ more) = ((splitName rest).1, (splitName rest).2 ++ more) := by
  induction rest with
  | nil =>
    cases more with
    | nil => rfl
    | cons b more =>
      have first : isBlank b := apart b rfl
      have dot : b ≠ '.' := by
        rintro rfl
        exact absurd first (by decide)
      simp [splitName, unworded_of_blank first, dot]
  | cons c rest ih =>
    rw [List.cons_append, splitName, splitName, nameFollows_apart apart]
    split
    · rw [ih]
    · rfl

/-- Digits do not go on behind a blank. -/
theorem digits_apart : (rest ++ more).takeWhile isDigit = rest.takeWhile isDigit ∧
    (rest ++ more).dropWhile isDigit = rest.dropWhile isDigit ++ more :=
  while_before (fun b first => (unworded_of_blank (apart b first)).2) rest

theorem splitFraction_apart :
    splitFraction (rest ++ more) = ((splitFraction rest).1, (splitFraction rest).2 ++ more) := by
  fun_cases splitFraction rest with
  | case1 d tail digit =>
    rw [List.cons_append, List.cons_append, splitFraction, if_pos digit, ← List.cons_append,
      (digits_apart apart).1, (digits_apart apart).2]
  | case2 d tail other => rw [List.cons_append, List.cons_append, splitFraction, if_neg other]
  | case3 rest short =>
    match rest with
    | [] => exact splitFraction_other fun first => absurd (apart '.' first) (by decide)
    | [c] =>
      by_cases same : c = '.'
      · subst same
        cases more with
        | nil => rfl
        | cons b more =>
          have undigited := (unworded_of_blank (apart b rfl)).2
          simp [splitFraction, undigited]
      · exact splitFraction_other (by simpa using same)
    | c :: d :: tail =>
      refine splitFraction_other fun first => ?_
      obtain rfl := Option.some.inj first
      exact short d tail rfl

theorem splitNumber_apart :
    splitNumber (rest ++ more) = ((splitNumber rest).1, (splitNumber rest).2 ++ more) := by
  simp only [splitNumber, (digits_apart apart).1, (digits_apart apart).2, splitFraction_apart apart]

end

section

variable {c quote : Char} {rest chars lexeme behind blanks : List Char} {kind : TokenKind}
  (blank : ∀ b ∈ blanks, isBlank b)

include blank

/-- Blanks close no text in quotes. -/
theorem contents?_none (visible : isBlank quote = false) : contents? quote blanks = none := by
  fun_induction contents? quote blanks with
  | case1 => rfl
  | case2 => rfl
  | case3 => exact absurd (blank quote List.mem_cons_self) (by simp [visible])
  | case4 => rfl
  | case5 => exact absurd (blank '\\' List.mem_cons_self) (by decide)
  | case6 c rest _ _ _ ih =>
    rw [ih fun b member => blank b (List.mem_cons_of_mem c member), Option.map_none]

theorem contents?_blanks (visible : isBlank quote = false) :
    contents? quote (rest ++ blanks) =
      (contents? quote rest).map fun inner => { inner with rest := inner.rest ++ blanks } := by
  fun_induction contents? quote rest with
  | case1 => exact contents?_none blank visible
  | case2 rest =>
    rw [List.cons_append, contents?.eq_def]
    rfl
  | case3 rest line =>
    rw [List.cons_append, contents?.eq_def]
    simp [line]
  | case4 line other =>
    -- A backslash at the end hides the first of the blanks, and nothing closes the text all the
    -- same.
    have behind :=
      contents?_none (fun b (member : b ∈ blanks.tail) =>
        blank b (List.mem_of_mem_tail member)) visible
    rw [List.cons_append, contents?.eq_def]
    cases blanks with
    | nil => simp [line, other]
    | cons b blanks => simp [line, other, show contents? quote blanks = none from behind]
  | case5 e rest line other ih =>
    rw [List.cons_append, List.cons_append, contents?.eq_def]
    simp [line, other, ih, Function.comp_def]
  | case6 c rest line other escape ih =>
    rw [List.cons_append, contents?.eq_def]
    simp [line, other, escape, ih, Function.comp_def]

/-- Blanks at the end of a text have no part in its first token, unless that is a block. -/
theorem Spells.before_blanks (spells : Spells (c :: (rest ++ blanks)) kind chars lexeme behind)
    (unblocked : kind ≠ .block) :
    ∃ front, behind = front ++ blanks ∧ Spells (c :: rest) kind chars lexeme front := by
  have apart : ∀ b ∈ blanks.head?, isBlank b := fun b first => blank b (List.mem_of_mem_head? first)
  generalize whole : rest ++ blanks = all at spells
  cases spells with
  | block => exact absurd rfl unblocked
  | @string _ _ inner quoted line closed =>
    subst whole
    have visible : isBlank c = false := by rcases quoted with rfl | rfl <;> decide
    rw [contents?_blanks blank visible] at closed
    obtain ⟨inner, ends, rfl⟩ := Option.map_eq_some_iff.mp closed
    refine ⟨inner.rest, rfl, .string quoted (fun double short => ?_) ends⟩
    exact line double (short.trans (List.prefix_append ..))
  | dollarName starts =>
    subst whole
    rw [splitName_apart apart]
    rw [head?_any_apart apart fun b blank => unstarted_of_blank blank] at starts
    exact ⟨_, rfl, .dollarName starts⟩
  | number first =>
    subst whole
    rw [splitNumber_apart apart]
    rw [digitFollows_apart apart] at first
    exact ⟨_, rfl, .number first⟩
  | name first other =>
    subst whole
    rw [splitName_apart apart]
    exact ⟨_, rfl, .name first other⟩
  | symbol means =>
    subst whole
    exact ⟨rest, rfl, .symbol means⟩
  | @double _ d _ pair =>
    cases rest with
    | nil =>
      obtain rfl : blanks = d :: behind := whole
      exact absurd pair (by simp [isPair_blank (blank d List.mem_cons_self)])
    | cons e tail =>
      obtain ⟨rfl, rfl⟩ := List.cons.inj whole
      exact ⟨tail, rfl, .double pair⟩
  | single one alone =>
    subst whole
    rw [head?_any_apart apart fun d blank => isPair_blank blank] at alone
    exact ⟨rest, rfl, .single one alone⟩

end

/-! ## Texts -/

section

variable {c : Char} {rest source chars lexeme behind blanks : List Char} {kind : TokenKind}
  {words : List (TokenKind × String)}

theorem Spells.visible (spells : Spells (c :: rest) kind chars lexeme behind) :
    isBlank c = false := by
  by_contra blank
  rw [Bool.not_eq_false] at blank
  have unsigned : ∀ c ∈ signs, isBlank c = false := List.all_iff_forall_prop.mp (by decide)
  have unworded := unworded_of_blank blank
  cases spells with
  | block => exact absurd blank (by decide)
  | string quoted => rcases quoted with rfl | rfl <;> exact absurd blank (by decide)
  | dollarName => exact absurd blank (by decide)
  | number first =>
    have minus : c = '-' := by
      simp only [unworded.2, Bool.false_or, Bool.and_eq_true, decide_eq_true_eq] at first
      exact first.1
    subst minus
    exact absurd blank (by decide)
  | name first => exact absurd first (by simp [unstarted_of_blank blank])
  | symbol means => exact absurd blank (by simp [unsigned c (punctuation?_sign means)])
  | double pair => exact absurd blank (by simp [unsigned c (isPair_sign pair).1])
  | single one => rcases one with rfl | rfl <;> exact absurd blank (by decide)

theorem Spelled.behind_blank (spelled : Spelled (c :: rest) words) (blank : isBlank c) :
    Spelled rest words := by
  cases spelled with
  | space _ later => exact later
  | token front => exact absurd blank (by simp [front.visible])

theorem Spelled.trimLeft (spelled : Spelled source words) :
    Spelled (Text.trimLeft source) words := by
  induction source with
  | nil => exact spelled
  | cons c rest ih =>
    rw [Text.trimLeft, List.dropWhile_cons]
    split
    · rename_i blank
      exact ih (spelled.behind_blank blank)
    · exact spelled

theorem Spelled.before_blanks (spelled : Spelled (source ++ blanks) words)
    (blank : ∀ b ∈ blanks, isBlank b) :
    Spelled source words := by
  -- The blanks vary too: once the text itself is at its end, they go on one by one.
  generalize whole : source ++ blanks = all at spelled
  induction spelled generalizing source blanks with
  | done =>
    obtain ⟨rfl, rfl⟩ := List.append_eq_nil_iff.mp whole
    exact .done
  | @space c rest words space later ih =>
    cases source with
    | nil =>
      obtain rfl : blanks = c :: rest := whole
      exact ih (fun b member => blank b (List.mem_cons_of_mem c member)) (List.nil_append rest)
    | cons d source =>
      obtain ⟨rfl, rfl⟩ := List.cons.inj whole
      exact .space space (ih blank rfl)
  | @token all chars lexeme behind kind words front unblocked later ih =>
    cases source with
    | nil =>
      obtain ⟨c, rest, rfl⟩ := front.starts
      obtain rfl : blanks = c :: rest := whole
      exact absurd (blank c List.mem_cons_self) (by simp [front.visible])
    | cons c source =>
      subst whole
      obtain ⟨short, rfl, shorter⟩ := front.before_blanks blank unblocked
      exact .token shorter unblocked (ih blank rfl)

/-- Blanks around a text have no part in its tokens. -/
theorem Spelled.trim (spelled : Spelled source words) : Spelled (Text.trim source) words := by
  have whole : (Text.trimLeft source).reverse.takeWhile isBlank ++
      (Text.trimLeft source).reverse.dropWhile isBlank =
      (Text.trimLeft source).reverse := List.takeWhile_append_dropWhile
  have split : Text.trim source ++ ((Text.trimLeft source).reverse.takeWhile isBlank).reverse =
      Text.trimLeft source := by
    rw [Text.trim, ← List.reverse_append]
    exact (congrArg List.reverse whole).trans (List.reverse_reverse _)
  have trimmed := spelled.trimLeft
  rw [← split] at trimmed
  refine trimmed.before_blanks fun b member => ?_
  exact List.all_eq_true.mp List.all_takeWhile b (List.mem_reverse.mp member)

theorem Spelled.trim_some (spelled : Spelled source words) (nonempty : words ≠ []) :
    Text.trim source ≠ [] := by
  intro empty
  have trimmed := spelled.trim
  rw [empty] at trimmed
  cases trimmed with
  | done => exact nonempty rfl
  | token front => nomatch front

end

end BotScript.Lexer
