import BotScript.Proofs.Syntax.Digits

/-! What is wrong with some tokens is wrong with one of them. A reading leaves the end of its tokens
or blames one of them; and it asks what a text stands for only of the texts among them, so that two
meanings of texts which agree there are read alike. -/

namespace BotScript

/-- A token is one of some tokens, or it is in a hole of a text among them. -/
inductive Token.Among : List Token → Token → Prop
  | listed {tokens : List Token} {t : Token} (member : t ∈ tokens) : Among tokens t
  | inside {tokens : List Token} {t inner : Token} {chars : List Char} {stream : TokenStream}
      (member : t ∈ tokens) (part : .hole chars ∈ (Template.cut t.text.toList).parts)
      (scanned : Lexer.scan .start chars = .ok stream) (deeper : Among stream.tokens inner) :
      Among tokens inner

/-- What is wrong with some tokens: the one that is blamed is among them, and so is a numeral
without a number. -/
def Failure.Within (tokens : List Token) : Failure → Prop
  | .complaint wrong => ∀ t ∈ wrong.blamed, t ∈ tokens
  | .numeral flawed =>
    ∃ t, Token.Among tokens t ∧ t.kind = .number ∧ Reading.numberOf t = .error (.numeral flawed)

/-- Something read from some tokens leaves the end of them, or it is wrong within them. -/
def Bounded {β : Type} (left : β → List Token) (tokens : List Token) : Except Failure β → Prop
  | .ok b => left b <:+ tokens
  | .error failure => failure.Within tokens

/-- Something is read from some tokens in two ways that come to the same. -/
def Agree {β : Type} (left : β → List Token) (tokens : List Token) (one other : Except Failure β) :
    Prop :=
  one = other ∧ Bounded left tokens one

/-- The tokens behind something that was read. -/
def Parsed.left {n : Nat} {α : Type} {source : Source n} (parsed : Parsed α source) : List Token :=
  parsed.rest.tokens

/-- The tokens behind something that may be absent. -/
def Trailing.left {n : Nat} {α : Type} {source : Source n} (trailing : Trailing α source) :
    List Token :=
  trailing.rest.tokens

/-- What a text stands for leaves no tokens. -/
abbrev nothing {β : Type} (_ : β) : List Token := []

/-! ## What follows on what -/

section

variable {β γ : Type} {left : β → List Token} {last : γ → List Token}
  {tokens inner : List Token} {t : Token}
  {failure : Failure} {result other : Except Failure β} {next further : β → Except Failure γ}

theorem Token.Among.mono (among : Token.Among inner t) (part : ∀ t ∈ inner, t ∈ tokens) :
    Token.Among tokens t := by
  cases among with
  | listed member => exact .listed (part _ member)
  | inside member hole scanned deeper => exact .inside (part _ member) hole scanned deeper

theorem Failure.Within.mono (within : failure.Within inner) (part : ∀ t ∈ inner, t ∈ tokens) :
    failure.Within tokens := by
  cases failure with
  | complaint wrong => exact fun t blamed => part t (within t blamed)
  | numeral flawed =>
    obtain ⟨t, among, wrong⟩ := within
    exact ⟨t, among.mono part, wrong⟩

namespace Bounded

/-- Something was read. -/
theorem done {b : β} (part : left b <:+ tokens) : Bounded left tokens (.ok b) :=
  part

/-- The same tokens seen from further in front. -/
theorem suffix (bounded : Bounded left inner result) (part : inner <:+ tokens) :
    Bounded left tokens result := by
  cases result with
  | ok b => exact List.IsSuffix.trans bounded part
  | error failure =>
    exact (show failure.Within inner from bounded).mono fun _ member => part.subset member

/-- What comes behind something that was read may still be blamed on the tokens in front. -/
theorem bind_at (first : Bounded left tokens result)
    (second : ∀ b, left b <:+ tokens → Bounded last tokens (next b)) :
    Bounded last tokens (result >>= next) := by
  cases result with
  | ok b => exact second b first
  | error failure => exact first

/-- One reading behind another one. -/
theorem bind (first : Bounded left tokens result) (second : ∀ b, Bounded last (left b) (next b)) :
    Bounded last tokens (result >>= next) :=
  first.bind_at fun b part => (second b).suffix part

/-- What a token stands for, and the tokens behind it. -/
theorem stands (meaning : Bounded nothing [t] result) (member : t ∈ tokens)
    (second : ∀ b, Bounded last tokens (next b)) :
    Bounded last tokens (result >>= next) := by
  cases result with
  | ok b => exact second b
  | error failure =>
    exact (show failure.Within [t] from meaning).mono (List.forall_mem_singleton.mpr member)

end Bounded

namespace Agree

theorem refl (bounded : Bounded left tokens result) : Agree left tokens result result :=
  ⟨rfl, bounded⟩

theorem suffix (agree : Agree left inner result other) (part : inner <:+ tokens) :
    Agree left tokens result other :=
  ⟨agree.1, agree.2.suffix part⟩

theorem bind (first : Agree left tokens result other)
    (part : ∀ b, left b <:+ tokens → Agree last (left b) (next b) (further b)) :
    Agree last tokens (result >>= next) (other >>= further) := by
  obtain ⟨rfl, bounded⟩ := first
  cases result with
  | ok b => exact (part b bounded).suffix bounded
  | error failure => exact ⟨rfl, bounded⟩

theorem stands (meaning : Agree nothing [t] result other) (member : t ∈ tokens)
    (second : ∀ b, Bounded last tokens (next b)) :
    Agree last tokens (result >>= next) (other >>= next) := by
  obtain ⟨rfl, bounded⟩ := meaning
  exact ⟨rfl, bounded.stands member second⟩

/-- Both ways turn the same way. -/
theorem ite {c : Prop} [Decidable c] {yes yes' no no' : Except Failure β}
    (first : c → Agree left tokens yes yes') (second : ¬ c → Agree left tokens no no') :
    Agree left tokens (if c then yes else no) (if c then yes' else no') := by
  split
  · exact first ‹_›
  · exact second ‹_›

end Agree

end

/-! ## Small readers -/

namespace Reading

variable {n : Nat} {α β γ : Type} {source : Source n} {left : γ → List Token}

theorem complain_bounded (problem : Problem) (source : Source n) :
    Bounded left source.tokens (complain problem source : Except Failure γ) := by
  intro t blamed
  exact List.mem_of_mem_head? blamed

theorem want_bounded (expectation : Expectation) (source : Source n) :
    Bounded left source.tokens (want expectation source : Except Failure γ) :=
  complain_bounded _ source

theorem next?_left {next : Parsed Token source} (taken : source.next? = some next) :
    next.value ∈ source.tokens ∧ next.left <:+ source.tokens := by
  rw [Source.next?_some taken]
  exact ⟨List.mem_cons_self, List.suffix_cons _ _⟩

theorem token_bounded (test : Token → Bool) (expectation : Expectation) (source : Source n) :
    Bounded Parsed.left source.tokens (token test expectation source) := by
  unfold token
  split
  · exact want_bounded _ source
  · rename_i next peeked
    split
    · exact (next?_left peeked).2
    · exact want_bounded _ source

theorem map_bounded {f : α → β} {reading : Reading n α}
    (bounded : Bounded Parsed.left source.tokens (reading source)) :
    Bounded Parsed.left source.tokens (map f reading source) :=
  bounded.bind fun a => .done (List.suffix_refl a.left)

theorem skip_left (test : Token → Bool) (source : Source n) :
    (skip test source).left <:+ source.tokens := by
  unfold skip
  split
  · exact List.suffix_rfl
  · rename_i next peeked
    split
    · exact (next?_left peeked).2
    · exact List.suffix_rfl

theorem within_agree {source : Source (n + 1)} {next : Parsed Token source}
    (taken : source.next? = some next) {nested nested' : Reading n β}
    (agree : Agree Parsed.left next.left (nested next.inside) (nested' next.inside)) :
    Agree Parsed.left source.tokens (next.within nested) (next.within nested') := by
  refine Agree.suffix ?_ (next?_left taken).2
  exact agree.bind fun inner _ => .refl (List.suffix_refl inner.left)

theorem within_bounded {source : Source (n + 1)} {next : Parsed Token source}
    (taken : source.next? = some next) {nested : Reading n β}
    (bounded : Bounded Parsed.left next.left (nested next.inside)) :
    Bounded Parsed.left source.tokens (next.within nested) :=
  (within_agree taken (.refl bounded)).2

/-! ## Expressions -/

/-- Two meanings of texts agree on the texts among some tokens. -/
abbrev Alike (tokens : List Token) (one other : Token → Except Failure Expr) : Prop :=
  ∀ t ∈ tokens, t.isString → Agree nothing [t] (one t) (other t)

/-- Two readings agree wherever they start among some tokens. -/
abbrev Alongside (tokens : List Token) (one other : Reading n α) : Prop :=
  ∀ source : Source n,
    source.tokens <:+ tokens → Agree Parsed.left source.tokens (one source) (other source)

section

variable {tokens : List Token} {part part' nested nested' : Reading n Expr}

theorem chain_agree (parts : Alongside tokens part part') (joins : Token → Bool) (source : Source n)
    (inside : source.tokens <:+ tokens) :
    Agree Parsed.left source.tokens (chain joins part source) (chain joins part' source) := by
  rw [chain, chain]
  refine (parts source inside).bind fun first behind => ?_
  cases peeked : first.rest.next? with
  | none => exact .refl (List.suffix_refl first.left)
  | some link =>
    refine .ite (fun _ => ?_) fun _ => .refl (List.suffix_refl first.left)
    have shorter : link.rest.tokens.length < source.tokens.length := (first.andThen link).shorter
    have further : link.left <:+ first.left := (next?_left peeked).2
    refine Agree.suffix ?_ further
    refine (chain_agree parts joins link.rest (further.trans (behind.trans inside))).bind
      fun others _ => ?_
    exact .refl (List.suffix_refl others.left)
termination_by source.tokens.length

theorem joined_agree (parts : Alongside tokens part part') (join : List Expr → Position → Expr)
    (joins : Token → Bool) :
    Alongside tokens (joined join joins part) (joined join joins part') := by
  intro source inside
  refine (chain_agree parts joins source inside).bind fun all _ => ?_
  exact .refl (List.suffix_refl all.left)

theorem comparison_agree (parts : Alongside tokens part part') :
    Alongside tokens (comparison part) (comparison part') := by
  intro source inside
  refine (parts source inside).bind fun first behind => ?_
  cases peeked : first.rest.next? with
  | none => exact .refl (List.suffix_refl first.left)
  | some sign =>
    refine .ite (fun _ => ?_) fun _ => .refl (List.suffix_refl first.left)
    have further : sign.left <:+ first.left := (next?_left peeked).2
    refine Agree.suffix ?_ further
    refine (parts sign.rest (further.trans (behind.trans inside))).bind fun right _ => ?_
    refine .ite (fun _ => ?_) fun _ => .refl (List.suffix_refl right.left)
    exact .refl (complain_bounded _ right.rest)

theorem negated_agree (parts : Alongside tokens part part') :
    Alongside tokens (negated part) (negated part') := by
  intro source inside
  rw [negated, negated]
  cases peeked : source.next? with
  | none => exact parts source inside
  | some word =>
    refine .ite (fun _ => ?_) fun _ => parts source inside
    have shorter : word.rest.tokens.length < source.tokens.length := word.shorter
    have further : word.left <:+ source.tokens := (next?_left peeked).2
    refine Agree.suffix ?_ further
    refine (negated_agree parts word.rest (further.trans inside)).bind fun inner _ => ?_
    exact .refl (List.suffix_refl inner.left)
termination_by source => source.tokens.length

theorem separator_bounded (closing : TokenKind) (text : String) (source : Source n) :
    Bounded Parsed.left source.tokens (separator closing text source) :=
  map_bounded (token_bounded _ _ source)

theorem items_agree (values : Alongside tokens nested nested') (source : Source n)
    (inside : source.tokens <:+ tokens) :
    Agree Parsed.left source.tokens (items nested source) (items nested' source) := by
  rw [items, items]
  cases peeked : source.next? with
  | none => exact .refl (want_bounded _ source)
  | some next =>
    refine .ite (fun _ => .refl (next?_left peeked).2) fun _ => ?_
    refine (values source inside).bind fun first behind => ?_
    refine (Agree.refl (separator_bounded _ _ first.rest)).bind fun stop further => ?_
    have shorter : stop.rest.tokens.length < source.tokens.length := (first.andThen stop).shorter
    refine .ite (fun _ => ?_) fun _ => .refl (List.suffix_refl stop.left)
    refine (items_agree values stop.rest (further.trans (behind.trans inside))).bind
      fun others _ => ?_
    exact .refl (List.suffix_refl others.left)
termination_by source.tokens.length

theorem entriesAfter_agree (values : Alongside tokens nested nested')
    (before : List (String × Expr)) (source : Source n) (inside : source.tokens <:+ tokens) :
    Agree Parsed.left source.tokens (entriesAfter nested before source)
      (entriesAfter nested' before source) := by
  rw [entriesAfter, entriesAfter]
  cases peeked : source.next? with
  | none => exact .refl (want_bounded _ source)
  | some key =>
    have first : key.left <:+ source.tokens := (next?_left peeked).2
    refine .ite (fun _ => .refl first) fun _ => ?_
    refine .ite (fun _ => .refl (want_bounded _ source)) fun _ => ?_
    refine .ite (fun _ => .refl (complain_bounded _ source)) fun _ => ?_
    refine Agree.suffix ?_ first
    refine (Agree.refl (token_bounded _ _ key.rest)).bind fun colon second => ?_
    have deeper := second.trans (first.trans inside)
    refine (values colon.rest deeper).bind fun value third => ?_
    refine (Agree.refl (separator_bounded _ _ value.rest)).bind fun stop fourth => ?_
    have shorter : stop.rest.tokens.length < source.tokens.length :=
      (key.andThen (colon.andThen (value.andThen stop))).shorter
    refine .ite (fun _ => ?_) fun _ => .refl (List.suffix_refl stop.left)
    refine (entriesAfter_agree values _ stop.rest (fourth.trans (third.trans deeper))).bind
      fun all _ => ?_
    exact .refl (List.suffix_refl all.left)
termination_by source.tokens.length

/-- A numeral without a number is one of its tokens. -/
theorem numberOf_bounded {t : Token} (digits : t.kind = .number) :
    Bounded nothing [t] (numberOf t) := by
  cases result : numberOf t with
  | ok value => exact List.nil_suffix
  | error failure =>
    cases failure with
    | complaint wrong =>
      unfold numberOf at result
      split at result <;> split at result <;> cases result
    | numeral flawed => exact ⟨t, .listed List.mem_cons_self, digits, result⟩

variable {one other : Token → Except Failure Expr}

theorem operand_agree (alike : Alike tokens one other) (values : Alongside tokens nested nested') :
    Alongside tokens (operand one nested) (operand other nested') := by
  intro source inside
  unfold operand
  cases peeked : source.next? with
  | none => exact .refl (want_bounded _ source)
  | some next =>
    obtain ⟨member, behind⟩ := next?_left peeked
    have done (e : Expr) : Bounded Parsed.left source.tokens (.ok (next.map fun _ => e)) := behind
    have deeper : next.inside.tokens <:+ tokens := behind.trans inside
    dsimp only
    refine .ite (fun quoted => ?_) fun _ => ?_
    · exact (alike _ (inside.subset member) quoted).stands member done
    refine .ite (fun digits => ?_) fun _ => ?_
    · exact .refl ((numberOf_bounded digits).stands member fun value => done _)
    refine .ite (fun _ => .refl (done _)) fun _ => ?_
    refine .ite (fun _ => .refl (done _)) fun _ => ?_
    refine .ite (fun _ => .refl behind) fun _ => ?_
    refine .ite (fun _ => within_agree peeked ?_) fun _ => ?_
    · refine (items_agree values next.inside deeper).bind fun all _ => ?_
      exact .refl (List.suffix_refl all.left)
    refine .ite (fun _ => within_agree peeked ?_) fun _ => ?_
    · refine (entriesAfter_agree values [] next.inside deeper).bind fun all _ => ?_
      exact .refl (List.suffix_refl all.left)
    refine .ite (fun _ => within_agree peeked ?_) fun _ => .refl (want_bounded _ source)
    refine (values next.inside deeper).bind fun inner _ => ?_
    refine .refl ((map_bounded (token_bounded _ _ inner.rest)).bind fun close => ?_)
    exact .done (List.suffix_refl close.left)

/-- Expressions are read alike where texts mean the same. -/
theorem expression_agree (alike : Alike tokens one other) :
    Alongside tokens (expression one : Reading n Expr) (expression other) := by
  induction n with
  | zero => exact fun source _ => absurd source.few (Nat.not_lt_zero _)
  | succ n ih =>
    have operands := operand_agree alike ih
    have sums :=
      joined_agree (joined_agree operands coalesceAll (isOperator "??")) .concat (isOperator "+")
    have conditions := negated_agree (comparison_agree sums)
    exact joined_agree (joined_agree conditions (.junction .and) (·.isKeyword "and"))
      (.junction .or) (·.isKeyword "or")

end

/-! ## Texts -/

section

variable {t : Token} {one other : List Char → Except Failure Expr}
  {template template' : Token → Except Failure Expr}
  {chars : List Char}

theorem segments_agree {parts : List Template.Part}
    (holes : ∀ chars, .hole chars ∈ parts → Agree nothing [t] (one chars) (other chars)) :
    Agree nothing [t] (segments one parts) (segments other parts) := by
  induction parts with
  | nil => exact .refl List.nil_suffix
  | cons part parts ih =>
    have later := ih fun chars member => holes chars (List.mem_cons_of_mem _ member)
    obtain ⟨same, bounded⟩ := later
    cases part with
    | text chars =>
      rw [segments, segments, ← same]
      exact .refl (bounded.stands List.mem_cons_self fun _ => .done List.nil_suffix)
    | hole chars =>
      rw [segments, segments, ← same]
      refine (holes chars List.mem_cons_self).stands List.mem_cons_self fun e => ?_
      exact bounded.stands List.mem_cons_self fun _ => .done List.nil_suffix

/-- A text is wrong where its braces are, or where one of its holes is. -/
theorem templateWith_agree
    (holes : ∀ chars, .hole chars ∈ (Template.cut t.text.toList).parts →
      Agree nothing [t] (one chars) (other chars)) :
    Agree nothing [t] (templateWith one t) (templateWith other t) := by
  refine (segments_agree holes).stands List.mem_cons_self fun segments => ?_
  split
  · intro blamed same
    exact List.mem_singleton.mpr (Option.some.inj same).symm
  · split <;> exact .done List.nil_suffix

/-- What is wrong with a hole is blamed on its text, and numerals in it are numerals in the text. -/
theorem hole_agree (part : .hole chars ∈ (Template.cut t.text.toList).parts)
    (alike : ∀ stream, Lexer.scan .start chars = .ok stream →
      Alike stream.tokens template template') :
    Agree nothing [t] (hole template t chars) (hole template' t chars) := by
  have blame (problem : Problem) :
      Bounded nothing [t] (.error (.complaint ⟨problem, some t⟩) : Except Failure Expr) := by
    intro blamed same
    exact List.mem_singleton.mpr (Option.some.inj same).symm
  unfold hole
  dsimp only
  cases scanned : Lexer.scan .start chars with
  | error e => exact .refl (blame _)
  | ok stream =>
    obtain ⟨same, bounded⟩ :=
      expression_agree (alike stream scanned) (.all stream.tokens) List.suffix_rfl
    dsimp only
    rw [← same]
    refine .refl ?_
    split
    · exact blame _
    · rename_i flawed wrong
      rw [wrong] at bounded
      obtain ⟨inner, among, digits, number⟩ := bounded
      exact ⟨inner, .inside List.mem_cons_self part scanned among, digits, number⟩
    · split
      · exact .done List.nil_suffix
      · exact blame _

open Template

/-- Every token in a hole has fewer opening braces than the text with the hole, whatever escapes and
tabs do to it. -/
theorem fewer_braces {stream : TokenStream} (part : .hole chars ∈ (cut t.text.toList).parts)
    (scanned : Lexer.scan .start chars = .ok stream) :
    ∀ inner ∈ stream.tokens, openBraces inner.text.toList < openBraces t.text.toList :=
  fun inner member => Nat.lt_of_le_of_lt (Lexer.scan_taken scanned inner member).braces
  (hole_braces part)

/-- The text itself may be longer than the hole: blocks are cleaned, which expands their tabs. -/
example :
    (Lexer.scan .start "\"\"\"a\tb\tc\"\"\"".toList).map
      (fun stream => stream.tokens.map (·.text.length)) = .ok [17] := by
  decide +kernel

/-- Deeper holes than a text has opening braces make no difference. -/
theorem templateWithin_agree {depth depth' : Nat} (enough : openBraces t.text.toList ≤ depth)
    (enough' : openBraces t.text.toList ≤ depth') :
    Agree nothing [t] (templateWithin depth t) (templateWithin depth' t) := by
  induction depth generalizing depth' t with
  | zero =>
    have closed (chars : List Char) : .hole chars ∉ (cut t.text.toList).parts := fun part => by
      have fewer := hole_braces part
      omega
    cases depth' <;> exact templateWith_agree fun chars part => absurd part (closed chars)
  | succ depth ih =>
    cases depth' with
    | zero =>
      refine templateWith_agree fun chars part => ?_
      have fewer := hole_braces part
      omega
    | succ depth' =>
      refine templateWith_agree fun chars part => ?_
      refine hole_agree part fun stream scanned inner member _ => ?_
      have fewer := fewer_braces part scanned inner member
      exact ih (by omega) (by omega)

/-- A text stands for what its holes stand for, to any depth. -/
theorem template_fixed (t : Token) :
    Reading.template t = templateWith (hole Reading.template t) t := by
  have deeper : Agree nothing [t] (templateWithin (openBraces t.text.toList) t)
      (templateWithin (openBraces t.text.toList + 1) t) :=
        templateWithin_agree (Nat.le_refl _) (Nat.le_succ _)
  have inside : Agree nothing [t]
      (templateWith (hole (templateWithin (openBraces t.text.toList)) t) t)
      (templateWith (hole Reading.template t) t) := by
    refine templateWith_agree fun chars part => ?_
    refine hole_agree part fun stream scanned inner member _ => ?_
    have fewer := fewer_braces part scanned inner member
    exact templateWithin_agree (by omega) (Nat.le_refl _)
  exact deeper.1.trans inside.1

/-- What is wrong with a text is wrong within it. -/
theorem template_bounded (t : Token) : Bounded nothing [t] (Reading.template t) :=
  (templateWithin_agree (Nat.le_refl _) (Nat.le_refl _)).2

theorem expression_bounded (source : Source n) :
    Bounded Parsed.left source.tokens (expression Reading.template source) :=
  (expression_agree (fun t _ _ => .refl (template_bounded t)) source List.suffix_rfl).2

end

end Reading

end BotScript
