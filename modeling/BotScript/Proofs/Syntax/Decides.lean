import BotScript.Proofs.Number.Numerals
import BotScript.Proofs.Syntax.Grammar

/-! Readers decide what their grammars derive. A reader that returns something has derived it, and
nothing else is derived that is followed by a token at which the phrase may end; a reader that fails
leaves nothing to derive and says why, as long as all numerals are numbers. -/

namespace BotScript

/-- All numerals in a token are decimal, also in the holes of a text. -/
inductive Token.Decimal : Token → Prop
  | other {t : Token} (digits : t.kind ≠ .number) (quoted : t.isString = false) : Decimal t
  | number {t : Token} (digits : t.kind = .number)
      (numeral : Number.IsNumeral t.text.toList) : Decimal t
  | string {t : Token} (quoted : t.isString)
      (holes : ∀ chars stream, .hole chars ∈ (Template.cut t.text.toList).parts →
        Lexer.scan .start chars = .ok stream → ∀ inner ∈ stream.tokens, Decimal inner) : Decimal t

/-- What has been read, and the tokens behind it. -/
def Parsed.seen {n : Nat} {α : Type} {source : Source n} (parsed : Parsed α source) :
    α × List Token :=
  (parsed.value, parsed.rest.tokens)

/-- What may be absent, and the tokens behind it. -/
def Trailing.seen {n : Nat} {α : Type} {source : Source n} (trailing : Trailing α source) :
    α × List Token :=
  (trailing.value, trailing.rest.tokens)

/-- What has been read to the end of all tokens. -/
def toEnd {α : Type} (a : α) : α × List Token :=
  (a, [])

/-- A result of reading some tokens agrees with what can be derived from them where a boundary
follows. -/
def Decides {α β : Type} (view : β → α × List Token) (tokens : List Token)
    (boundary : List Token → Prop) (derives : α → List Token → Prop) : Except Failure β → Prop
  | .ok b => (view b).2 <:+ tokens ∧ derives (view b).1 (view b).2 ∧
      ∀ a rest, derives a rest → boundary rest → view b = (a, rest)
  | .error failure => (∀ a rest, derives a rest → ¬ boundary rest) ∧
      ((∀ t ∈ tokens, t.Decimal) → ∃ complaint, failure = .complaint complaint)

/-- A boundary is wherever a phrase ends. -/
abbrev anywhere : List Token → Prop := fun _ => True

namespace Decides

variable {α β γ δ : Type} {view : β → α × List Token} {tokens : List Token}
  {boundary edge : List Token → Prop}
  {derives other : α → List Token → Prop} {result : Except Failure β}

/-- What may end anywhere may end at any boundary. -/
theorem everywhere (decides : Decides view tokens anywhere derives result) :
    Decides view tokens boundary derives result := by
  cases result with
  | ok b =>
    exact ⟨decides.1, decides.2.1, fun a rest derived _ => decides.2.2 a rest derived trivial⟩
  | error failure => exact ⟨fun a rest derived _ => decides.1 a rest derived trivial, decides.2⟩

/-- What is derived may be said in other words, and less may be asked of what follows. -/
theorem imp (decides : Decides view tokens edge derives result)
    (sound : ∀ a rest, derives a rest → other a rest)
    (complete : ∀ a rest, other a rest → boundary rest → derives a rest ∧ edge rest) :
    Decides view tokens boundary other result := by
  cases result with
  | ok b =>
    obtain ⟨suffix, derived, unique⟩ := decides
    refine ⟨suffix, sound _ _ derived, fun a rest further follows => ?_⟩
    obtain ⟨same, ends⟩ := complete a rest further follows
    exact unique a rest same ends
  | error failure =>
    obtain ⟨underivable, complains⟩ := decides
    refine ⟨fun a rest further follows => ?_, complains⟩
    obtain ⟨same, ends⟩ := complete a rest further follows
    exact underivable a rest same ends

theorem congr (decides : Decides view tokens boundary derives result)
    (same : ∀ a rest, derives a rest ↔ other a rest) : Decides view tokens boundary other result :=
  decides.imp (fun a rest => (same a rest).mp) fun a rest further follows =>
    ⟨(same a rest).mpr further, follows⟩

/-- What is derived where a boundary follows may be said in other words. -/
theorem congr_at (decides : Decides view tokens boundary derives result)
    (sound : ∀ a rest, derives a rest → other a rest)
    (complete : ∀ a rest, other a rest → boundary rest → derives a rest) :
    Decides view tokens boundary other result :=
  decides.imp sound fun a rest further follows => ⟨complete a rest further follows, follows⟩

/-- Less may be asked of what follows. -/
theorem weaken (decides : Decides view tokens edge derives result)
    (stricter : ∀ rest, boundary rest → edge rest) :
    Decides view tokens boundary derives result :=
  decides.imp (fun _ _ derived => derived) fun _ rest derived follows =>
    ⟨derived, stricter rest follows⟩

/-- Something is read, whatever follows. -/
theorem done {b : β} {a : α} {rest : List Token} (seen : view b = (a, rest))
    (suffix : rest <:+ tokens) :
    Decides view tokens boundary (fun value behind => value = a ∧ behind = rest) (.ok b) := by
  refine ⟨by rw [seen]; exact suffix, by rw [seen]; exact ⟨rfl, rfl⟩, ?_⟩
  rintro value behind ⟨rfl, rfl⟩ -
  exact seen

/-- Something that was read. -/
theorem parsed {n : Nat} {source : Source n} (parsed : Parsed α source)
    (suffix : parsed.rest.tokens <:+ tokens) :
    Decides Parsed.seen tokens boundary (fun a rest => a = parsed.value ∧ rest = parsed.rest.tokens)
      (.ok parsed) :=
  done rfl suffix

/-- Something that was read or is absent. -/
theorem trailing {n : Nat} {source : Source n} (trailing : Trailing α source)
    (suffix : trailing.rest.tokens <:+ tokens) :
    Decides Trailing.seen tokens boundary (fun a rest => a = trailing.value ∧
    rest = trailing.rest.tokens)
      (.ok trailing) :=
  done rfl suffix

/-- Nothing can be read. -/
theorem refused {complaint : Complaint} (underivable : ∀ a rest, derives a rest → ¬ boundary rest) :
    Decides view tokens boundary derives (.error (.complaint complaint)) :=
  ⟨underivable, fun _ => ⟨complaint, rfl⟩⟩

/-- The same tokens seen from further in front. -/
theorem suffix {inner : List Token} (decides : Decides view inner boundary derives result)
    (part : inner <:+ tokens) :
    Decides view tokens boundary derives result := by
  cases result with
  | ok b => exact ⟨decides.1.trans part, decides.2⟩
  | error failure =>
    exact ⟨decides.1, fun decimal => decides.2 fun t member => decimal t (part.subset member)⟩

/-- One phrase behind another. The first one must end where the second one starts. -/
theorem bind {last : γ → δ × List Token} {next : β → Except Failure γ}
    (first : Decides view tokens edge derives result)
    (further : α → List Token → δ → List Token → Prop)
    (meets : ∀ a middle d rest, derives a middle → further a middle d rest →
      boundary rest → edge middle)
    (second : ∀ b, result = .ok b → derives (view b).1 (view b).2 →
      Decides last (view b).2 boundary (further (view b).1 (view b).2) (next b)) :
    Decides last tokens boundary (fun d rest => ∃ a middle, derives a middle ∧
      further a middle d rest)
      (result >>= next) := by
  cases result with
  | ok b =>
    obtain ⟨suffix, derived, unique⟩ := first
    have whole := (second b rfl derived).suffix suffix
    refine whole.imp (fun d rest behind => ⟨_, _, derived, behind⟩) ?_
    rintro d rest ⟨a, middle, front, behind⟩ follows
    have same := unique a middle front (meets a middle d rest front behind follows)
    rw [same]
    exact ⟨behind, follows⟩
  | error failure =>
    obtain ⟨underivable, complains⟩ := first
    refine ⟨?_, complains⟩
    rintro d rest ⟨a, middle, front, behind⟩ follows
    exact underivable a middle front (meets a middle d rest front behind follows)

/-- One phrase that was read behind another. -/
theorem next_at {n : Nat} {source : Source n} {result : Except Failure (Parsed α source)}
    {last : γ → δ × List Token}
    {next : Parsed α source → Except Failure γ}
    (first : Decides Parsed.seen tokens edge derives result)
    (further : α → List Token → δ → List Token → Prop)
    (meets : ∀ a middle d rest, further a middle d rest → boundary rest → edge middle)
    (second : ∀ parsed : Parsed α source, derives parsed.value parsed.rest.tokens →
      Decides last parsed.rest.tokens boundary (further parsed.value parsed.rest.tokens)
        (next parsed)) :
    Decides last tokens boundary (fun d rest => ∃ a middle, derives a middle ∧
      further a middle d rest)
      (result >>= next) :=
  first.bind further (fun a middle d rest _ => meets a middle d rest) fun parsed _ derived =>
    second parsed derived

/-- One phrase behind another that may end anywhere. -/
theorem next {n : Nat} {source : Source n} {result : Except Failure (Parsed α source)}
    {last : γ → δ × List Token}
    {next : Parsed α source → Except Failure γ}
    (first : Decides Parsed.seen tokens anywhere derives result)
    (further : α → List Token → δ → List Token → Prop)
    (second : ∀ parsed : Parsed α source, derives parsed.value parsed.rest.tokens →
      Decides last parsed.rest.tokens boundary (further parsed.value parsed.rest.tokens)
        (next parsed)) :
    Decides last tokens boundary (fun d rest => ∃ a middle, derives a middle ∧
      further a middle d rest)
      (result >>= next) :=
  first.next_at further (fun _ _ _ _ _ _ => trivial) second

/-- What is read is made into something else. -/
theorem map {last : γ → δ × List Token} {f : α → δ} {g : β → γ}
    (decides : Decides view tokens boundary derives result)
    (seen : ∀ b, last (g b) = (f (view b).1, (view b).2)) :
    Decides last tokens boundary (fun d rest => ∃ a, derives a rest ∧ d = f a)
      (result >>= fun b => pure (g b)) := by
  refine (decides.bind (fun a middle d rest => d = f a ∧ rest = middle) ?_ ?_).congr ?_
  · rintro a middle d rest - ⟨-, rfl⟩ follows
    exact follows
  · intro b _ _
    exact done (seen b) List.suffix_rfl
  · intro d rest
    constructor
    · rintro ⟨a, middle, front, rfl, rfl⟩
      exact ⟨a, front, rfl⟩
    · rintro ⟨a, front, rfl⟩
      exact ⟨a, rest, front, rfl, rfl⟩

/-- Something that stands for a token is given, unless what it stands for is wrong. -/
theorem given {x : Except Failure γ} {f : γ → α} {g : γ → β} {rest : List Token}
    (seen : ∀ c, view (g c) = (f c, rest)) (suffix : rest <:+ tokens)
    (complains : ∀ failure, x = .error failure → (∀ t ∈ tokens, t.Decimal) → ∃ complaint, failure =
      .complaint complaint) :
    Decides view tokens boundary (fun a behind => ∃ c, x = .ok c ∧ a = f c ∧ behind = rest)
      (x >>= fun c => pure (g c)) := by
  cases x with
  | ok c =>
    refine (done (seen c) suffix).congr fun a behind => ?_
    constructor
    · rintro ⟨rfl, rfl⟩
      exact ⟨c, rfl, rfl, rfl⟩
    · rintro ⟨_, same, rfl, rfl⟩
      obtain rfl := Except.ok.inj same
      exact ⟨rfl, rfl⟩
  | error failure =>
    refine ⟨?_, complains failure rfl⟩
    rintro a behind ⟨c, impossible, -⟩
    cases impossible

end Decides

/-! ## Small readers -/

theorem Source.next?_none {n : Nat} {source : Source n} (ended : source.next? = none) :
    source.tokens = [] := by
  obtain ⟨tokens, few⟩ := source
  cases tokens with
  | nil => rfl
  | cons t rest => cases ended

theorem Source.next?_some {n : Nat} {source : Source n} {next : Parsed Token source}
    (taken : source.next? = some next) :
    source.tokens = next.value :: next.rest.tokens := by
  obtain ⟨tokens, few⟩ := source
  cases tokens with
  | nil => cases taken
  | cons t rest =>
    obtain rfl := Option.some.inj taken
    rfl

/-- A phrase ends in front of the next token, or it goes on with it. -/
def Peeks {α : Type} (test : Token → Prop) (stops : α → List Token → Prop)
    (goes : Token → List Token → α → List Token → Prop) (tokens : List Token) (a : α)
    (rest : List Token) : Prop :=
  ((∀ t ∈ tokens.head?, ¬ test t) ∧ stops a rest) ∨ ∃ t behind,
    tokens = t :: behind ∧ test t ∧ goes t behind a rest

namespace Decides

variable {α β : Type} {n : Nat} {view : β → α × List Token} {boundary : List Token → Prop}
  {source : Source n}
  {test : Token → Prop} {stops : α → List Token → Prop}
  {goes : Token → List Token → α → List Token → Prop}

theorem peek_none {result : Except Failure β} (ended : source.next? = none)
    (absent : Decides view source.tokens boundary stops result) :
    Decides view source.tokens boundary (Peeks test stops goes source.tokens) result := by
  refine absent.congr fun a rest => ?_
  simp [Peeks, Source.next?_none ended]

theorem peek_some [DecidablePred test] {next : Parsed Token source} {go stop : Except Failure β}
    (taken : source.next? = some next)
    (present : test next.value →
      Decides view next.rest.tokens boundary (goes next.value next.rest.tokens) go)
    (absent : Decides view source.tokens boundary stops stop) :
    Decides view source.tokens boundary (Peeks test stops goes source.tokens)
      (if test next.value then go else stop) := by
  have front := Source.next?_some taken
  split
  · rename_i passes
    refine ((present passes).suffix (front ▸ List.suffix_cons _ _)).congr fun a rest => ?_
    rw [Peeks, front]
    constructor
    · exact fun further => .inr ⟨_, _, rfl, passes, further⟩
    · rintro (⟨fails, -⟩ | ⟨_, _, same, -, further⟩)
      · exact absurd passes (fails next.value rfl)
      · obtain ⟨rfl, rfl⟩ := List.cons.inj same
        exact further
  · rename_i fails
    refine absent.congr fun a rest => ?_
    rw [Peeks, front]
    constructor
    · refine fun ends => .inl ⟨?_, ends⟩
      simpa using fails
    · rintro (⟨-, ends⟩ | ⟨_, _, same, passes, -⟩)
      · exact ends
      · obtain ⟨rfl, -⟩ := List.cons.inj same
        exact absurd passes fails

end Decides

namespace Reading

variable {n : Nat} {α β : Type}

theorem token_decides (test : Token → Bool) (expectation : Expectation) (source : Source n) :
    Decides Parsed.seen source.tokens anywhere (fun t rest => source.tokens = t :: rest ∧ test t)
      (token test expectation source) := by
  obtain ⟨tokens, few⟩ := source
  cases tokens with
  | nil =>
    refine Decides.refused ?_
    rintro a rest ⟨impossible, -⟩
    cases impossible
  | cons t rest =>
    simp only [token, Source.next?]
    split
    · rename_i passes
      refine (Decides.parsed _ (List.suffix_cons t rest)).congr fun a behind => ?_
      constructor
      · rintro ⟨rfl, rfl⟩
        exact ⟨rfl, passes⟩
      · rintro ⟨same, -⟩
        obtain ⟨rfl, rfl⟩ := List.cons.inj same
        exact ⟨rfl, rfl⟩
    · rename_i fails
      refine Decides.refused ?_
      rintro a behind ⟨same, passes⟩
      obtain ⟨rfl, rfl⟩ := List.cons.inj same
      exact absurd passes fails

theorem kind_decides (kind : TokenKind) (expectation : Expectation) (source : Source n) :
    Decides Parsed.seen source.tokens anywhere (fun t rest => source.tokens = t :: rest ∧
    t.kind = kind)
      (token (·.kind = kind) expectation source) :=
  (token_decides _ _ source).congr fun t rest => by simp

theorem symbol_decides (kind : TokenKind) (text : String) (source : Source n) :
    Decides Parsed.seen source.tokens anywhere (fun t rest => source.tokens = t :: rest ∧
    t.kind = kind)
      (symbol kind text source) :=
  kind_decides kind _ source

/-- A reading made into another one. -/
theorem map_decides {f : α → β} {reading : Reading n α} {source : Source n}
    {boundary : List Token → Prop} {derives : α → List Token → Prop}
    (decides : Decides Parsed.seen source.tokens boundary derives (reading source)) :
    Decides Parsed.seen source.tokens boundary (fun b rest => ∃ a, derives a rest ∧ b = f a)
      (map f reading source) :=
  decides.map fun _ => rfl

/-- One reading behind another that may end anywhere. -/
theorem andThen_decides {first : Reading n α} {second : α → Reading n β} {source : Source n}
    {boundary : List Token → Prop} {derives : α → List Token → Prop}
    (one : Decides Parsed.seen source.tokens anywhere derives (first source))
    (further : α → List Token → β → List Token → Prop)
    (two : ∀ parsed : Parsed α source, derives parsed.value parsed.rest.tokens →
      Decides Parsed.seen parsed.rest.tokens boundary (further parsed.value parsed.rest.tokens)
        (second parsed.value parsed.rest)) :
    Decides Parsed.seen source.tokens boundary (fun b rest => ∃ a middle, derives a middle ∧
      further a middle b rest)
      (first.andThen second source) := by
  refine one.next further fun parsed derived => ?_
  refine ((two parsed derived).map (f := id) fun _ => rfl).congr fun b rest => ?_
  constructor
  · rintro ⟨_, both, rfl⟩
    exact both
  · exact fun both => ⟨b, both, rfl⟩

/-- A reading with a smaller bound. -/
theorem within_decides {source : Source (n + 1)} {parsed : Parsed α source} {nested : Reading n β}
    {boundary : List Token → Prop} {derives : β → List Token → Prop}
    (decides : Decides Parsed.seen parsed.rest.tokens boundary derives (nested parsed.inside)) :
    Decides Parsed.seen parsed.rest.tokens boundary derives (parsed.within nested) := by
  refine (decides.map (f := id) fun _ => rfl).congr fun b rest => ?_
  constructor
  · rintro ⟨_, derived, rfl⟩
    exact derived
  · exact fun derived => ⟨b, derived, rfl⟩

theorem separator_decides (closing : TokenKind) (text : String) (source : Source n)
    (other : closing ≠ .comma) :
    Decides Parsed.seen source.tokens anywhere
      (fun more rest => ∃ t, source.tokens = t :: rest ∧
        ((more = true ∧ t.kind = .comma) ∨ (more = false ∧ t.kind = closing)))
      (separator closing text source) := by
  refine (map_decides (token_decides _ _ source)).congr fun more rest => ?_
  constructor
  · rintro ⟨t, ⟨same, passes⟩, rfl⟩
    refine ⟨t, same, ?_⟩
    simp only [Bool.or_eq_true, decide_eq_true_eq] at passes
    rcases passes with comma | close
    · exact .inl ⟨by simp [comma], comma⟩
    · exact .inr ⟨by simp [close, other], close⟩
  · rintro ⟨t, same, ⟨rfl, comma⟩ | ⟨rfl, close⟩⟩
    · exact ⟨t, ⟨same, by simp [comma]⟩, by simp [comma]⟩
    · exact ⟨t, ⟨same, by simp [close]⟩, by simp [close, other]⟩

/-- A token is skipped exactly when it passes the test. -/
theorem skip_cases (test : Token → Bool) (source : Source n) :
    ((∀ t ∈ source.tokens.head?, test t = false) ∧ (skip test source).rest.tokens = source.tokens) ∨
      ∃ t, source.tokens = t :: (skip test source).rest.tokens ∧ test t := by
  obtain ⟨tokens, few⟩ := source
  cases tokens with
  | nil => exact .inl ⟨by simp, rfl⟩
  | cons t rest =>
    simp only [skip, Source.next?]
    split
    · rename_i passes
      exact .inr ⟨t, rfl, passes⟩
    · rename_i fails
      exact .inl ⟨by simpa using fails, rfl⟩

theorem skip_suffix (test : Token → Bool) (source : Source n) :
    (skip test source).rest.tokens <:+ source.tokens := by
  obtain ⟨-, same⟩ | ⟨t, same, -⟩ := skip_cases test source
  · exact ⟨[], same⟩
  · exact ⟨[t], same.symm⟩

theorem bindingName_decides (site : BindingSite) (source : Source n) :
    Decides Parsed.seen source.tokens anywhere
      (fun name rest => ∃ t, source.tokens = t :: rest ∧ Grammar.isBinding t ∧ name = t.text)
      (bindingName site source) := by
  refine ((token_decides _ _ source).next
    (fun t middle name rest => t.isDotted = false ∧ name = t.text ∧ rest = middle) ?_).congr ?_
  · intro t _
    split
    · rename_i dotted
      refine Decides.refused ?_
      rintro name rest ⟨plain, -⟩
      simp [dotted] at plain
    · rename_i plain
      refine (Decides.parsed (t.map Token.text) List.suffix_rfl).congr fun name rest => ?_
      simp [Parsed.map, plain]
  · intro name rest
    constructor
    · rintro ⟨t, middle, ⟨same, kind⟩, plain, rfl, rfl⟩
      exact ⟨t, same, by simpa [Grammar.isBinding, plain] using kind, rfl⟩
    · rintro ⟨t, same, binds, rfl⟩
      obtain ⟨kind, plain⟩ := Bool.and_eq_true_iff.mp binds
      exact ⟨t, rest, ⟨same, kind⟩, by simpa using plain, rfl, rfl⟩

end Reading

end BotScript
