import BotScript.Syntax.Reading
import Mathlib.Data.List.Forall2

/-! Readings that do not look at positions. From tokens of the same kinds and texts they come to
things that belong together, or they complain of the same. -/

namespace BotScript

/-- Two tokens of the same kind and text. -/
structure Token.Alike (token other : Token) : Prop where
  kind : token.kind = other.kind
  text : token.text = other.text

/-- Tokens of the same kind and text differ in their positions alone. -/
theorem Token.Alike.eq {token other : Token} (alike : token.Alike other) :
    other = { token with position := other.position } := by
  obtain ⟨kind, text, p⟩ := token
  obtain ⟨kind', text', q⟩ := other
  obtain ⟨rfl, rfl⟩ := alike
  rfl

/-- A test of tokens that does not look at their positions. -/
def Token.Blind {γ : Type} (test : Token → γ) : Prop :=
  ∀ (kind : TokenKind) (text : String) (p q : Position), test ⟨kind, text, p⟩ = test ⟨kind, text, q⟩

theorem Token.Alike.test {γ : Type} {token other : Token} (alike : token.Alike other)
    (test : Token → γ) (blind : Token.Blind test) : test token = test other := by
  rw [alike.eq]
  exact blind _ _ _ _

/-- What a token is, apart from its position. -/
def Token.bare (token : Token) : TokenKind × String :=
  (token.kind, token.text)

theorem Token.alike_of_bare {tokens others : List Token}
    (same : tokens.map Token.bare = others.map Token.bare) :
    List.Forall₂ Token.Alike tokens others := by
  induction tokens generalizing others with
  | nil =>
    obtain rfl := List.map_eq_nil_iff.mp same.symm
    exact .nil
  | cons token rest ih =>
    cases others with
    | nil => cases same
    | cons other others =>
      obtain ⟨first, later⟩ := List.cons.inj same
      obtain ⟨kind, text⟩ := Prod.mk.inj first
      exact .cons ⟨kind, text⟩ (ih later)

/-- Two lists of tokens of the same kinds and texts. -/
def Source.Alike {n : Nat} (source other : Source n) : Prop :=
  List.Forall₂ Token.Alike source.tokens other.tokens

/-- Two failures that say the same. -/
inductive Failure.Alike : Failure → Failure → Prop
  | complaint {problem : Problem} {blamed other : Option Token}
      (tokens : Option.Rel Token.Alike blamed other) :
    Alike (.complaint ⟨problem, blamed⟩) (.complaint ⟨problem, other⟩)
  | numeral (numeral : Numeral) : Alike (.numeral numeral) (.numeral numeral)

/-- Two complaints that say the same have the same message, and found the same. -/
theorem Complaint.found_alike {problem : Problem} {blamed other : Option Token}
    (tokens : Option.Rel Token.Alike blamed other) :
    (Complaint.mk problem blamed).found = (Complaint.mk problem other).found := by
  cases tokens with
  | none => rfl
  | some alike => exact alike.test Token.describe fun _ _ _ _ => rfl

theorem Complaint.message_alike {problem : Problem} {blamed other : Option Token}
    (tokens : Option.Rel Token.Alike blamed other) :
    (Complaint.mk problem blamed).message = (Complaint.mk problem other).message := by
  unfold Complaint.message
  rw [Complaint.found_alike tokens]

/-- Two readings end alike: with things that belong together, or with failures that say the same. -/
inductive Failure.EndAlike {α β : Type} (values : α → β → Prop) :
    Except Failure α → Except Failure β → Prop
  | ok {a : α} {b : β} (same : values a b) : EndAlike values (.ok a) (.ok b)
  | error {failure other : Failure}
      (alike : failure.Alike other) : EndAlike values (.error failure) (.error other)

namespace Failure.EndAlike

variable {α β γ δ : Type} {values : α → β → Prop} {further : γ → δ → Prop}

theorem bind {result : Except Failure α} {other : Except Failure β} {f : α → Except Failure γ}
    {g : β → Except Failure δ} (first : EndAlike values result other)
    (second : ∀ a b, values a b → EndAlike further (f a) (g b)) :
    EndAlike further (result >>= f) (other >>= g) := by
  cases first with
  | ok same => exact second _ _ same
  | error alike => exact .error alike

/-- Both turn the same way. -/
theorem ite {c c' : Prop} [Decidable c] [Decidable c'] (same : c ↔ c') {yes no : Except Failure α}
    {yes' no' : Except Failure β} (first : EndAlike values yes yes')
    (second : EndAlike values no no') :
    EndAlike values (if c then yes else no) (if c' then yes' else no') := by
  by_cases holds : c
  · rwa [if_pos holds, if_pos (same.mp holds)]
  · rwa [if_neg holds, if_neg fun holds' => holds (same.mpr holds')]

end Failure.EndAlike

open Failure (EndAlike)

variable {n : Nat} {α β γ δ : Type} {source source' : Source n} {values : α → β → Prop}
  {further : γ → δ → Prop}

/-- Two things read that belong together, with tokens behind them that are alike. -/
structure Parsed.Alike (values : α → β → Prop) (parsed : Parsed α source)
    (other : Parsed β source') : Prop where
  value : values parsed.value other.value
  rest : parsed.rest.Alike other.rest

/-- Two things that may be absent and belong together, with tokens behind them that are alike. -/
structure Trailing.Alike (values : α → β → Prop) (trailing : Trailing α source)
    (other : Trailing β source') : Prop where
  value : values trailing.value other.value
  rest : trailing.rest.Alike other.rest

namespace Reading

/-- Two readings from tokens that are alike end alike. -/
def Abreast (values : α → β → Prop) (reading : Reading n α) (other : Reading n β) : Prop :=
  ∀ source source' : Source n,
    source.Alike source' → EndAlike (Parsed.Alike values) (reading source) (other source')

theorem next?_alike (sources : source.Alike source') :
    (source.next? = none ∧ source'.next? = none) ∨
    ∃ next next', source.next? = some next ∧ source'.next? = some next' ∧
      next.Alike Token.Alike next' := by
  obtain ⟨tokens, few⟩ := source
  obtain ⟨tokens', few'⟩ := source'
  cases sources with
  | nil => exact .inl ⟨rfl, rfl⟩
  | cons first rest => exact .inr ⟨_, _, rfl, rfl, first, rest⟩

theorem head?_alike (sources : source.Alike source') :
    Option.Rel Token.Alike source.tokens.head? source'.tokens.head? := by
  obtain ⟨tokens, few⟩ := source
  obtain ⟨tokens', few'⟩ := source'
  cases sources with
  | nil => exact .none
  | cons first rest => exact .some first

/-- What is asked of the first token alone is answered alike. -/
theorem head?_any (sources : source.Alike source') {test : Token → Bool}
    (blind : Token.Blind test) :
    source.tokens.head?.any test = source'.tokens.head?.any test := by
  have heads := head?_alike sources
  revert heads
  generalize source.tokens.head? = head
  generalize source'.tokens.head? = head'
  intro heads
  cases heads with
  | none => rfl
  | some alike => exact alike.test test blind

theorem complain_alike (problem : Problem) (sources : source.Alike source') :
    EndAlike values (complain problem source) (complain problem source') :=
  .error (.complaint (head?_alike sources))

theorem want_alike (expectation : Expectation) (sources : source.Alike source') :
    EndAlike values (want expectation source) (want expectation source') :=
  complain_alike _ sources

theorem token_abreast {test : Token → Bool} (blind : Token.Blind test) (expectation : Expectation) :
    Abreast Token.Alike (token test expectation : Reading n Token) (token test expectation) := by
  intro source source' sources
  unfold token
  rcases next?_alike sources with ⟨ended, ended'⟩ | ⟨next, next', taken, taken', nexts⟩
  · rw [ended, ended']
    exact want_alike expectation sources
  · rw [taken, taken']
    exact .ite (by rw [nexts.value.test test blind]) (.ok nexts) (want_alike expectation sources)

theorem map_abreast {reading : Reading n α} {other : Reading n β}
    (alike : Abreast values reading other) {f : α → γ} {g : β → δ}
    (maps : ∀ a b, values a b → further (f a) (g b)) :
    Abreast further (map f reading) (map g other) := by
  intro source source' sources
  refine (alike source source' sources).bind fun a b parsed => ?_
  exact .ok ⟨maps _ _ parsed.value, parsed.rest⟩

theorem symbol_abreast (kind : TokenKind) (text : String) :
    Abreast Token.Alike (symbol kind text : Reading n Token) (symbol kind text) :=
  token_abreast (fun _ _ _ _ => rfl) _

theorem separator_abreast (closing : TokenKind) (text : String) :
    Abreast Eq (separator closing text : Reading n Bool) (separator closing text) :=
  map_abreast (token_abreast (fun _ _ _ _ => rfl) _) fun _ _ alike => by rw [alike.kind]

theorem skip_alike {test : Token → Bool} (blind : Token.Blind test)
    (sources : source.Alike source') :
    (skip test source).Alike Eq (skip test source') := by
  unfold skip
  rcases next?_alike sources with ⟨ended, ended'⟩ | ⟨next, next', taken, taken', nexts⟩
  · rw [ended, ended']
    exact ⟨rfl, sources⟩
  · rw [taken, taken']
    dsimp only
    rw [nexts.value.test test blind]
    split
    · exact ⟨rfl, nexts.rest⟩
    · exact ⟨rfl, sources⟩

theorem bindingName_abreast (site : BindingSite) :
    Abreast Eq (bindingName site : Reading n String) (bindingName site) := by
  intro source source' sources
  refine (token_abreast (fun _ _ _ _ => rfl) _ source source' sources).bind
    fun name name' names => ?_
  refine .ite ?_ (complain_alike _ sources) (.ok ⟨names.value.text, names.rest⟩)
  rw [names.value.test Token.isDotted fun _ _ _ _ => rfl]

theorem bindingAfterAs_alike (site : BindingSite) (sources : source.Alike source') :
    EndAlike (Trailing.Alike Eq) (bindingAfterAs site source) (bindingAfterAs site source') := by
  unfold bindingAfterAs
  rcases next?_alike sources with ⟨ended, ended'⟩ | ⟨next, next', taken, taken', nexts⟩
  · rw [ended, ended']
    exact .ok ⟨rfl, sources⟩
  · rw [taken, taken']
    refine .ite (by rw [nexts.value.test (·.isKeyword "as") fun _ _ _ _ => rfl]) ?_
      (.ok ⟨rfl, sources⟩)
    refine (bindingName_abreast site _ _ nexts.rest).bind fun name name' names => ?_
    exact .ok ⟨congrArg Option.some names.value, names.rest⟩

/-- Behind something, readings with a smaller bound. -/
theorem within_alike {source source' : Source (n + 1)} {parsed : Parsed α source}
    {other : Parsed β source'} (rests : parsed.rest.Alike other.rest) {nested : Reading n γ}
    {nested' : Reading n δ} (alike : Abreast further nested nested') :
    EndAlike (Parsed.Alike further) (parsed.within nested) (other.within nested') := by
  refine (alike parsed.inside other.inside rests).bind fun inner inner' inners => ?_
  exact .ok ⟨inners.value, inners.rest⟩

end Reading

end BotScript
