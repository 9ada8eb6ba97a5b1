import BotScript.Syntax.Complaint

/-!
Reading tokens from the start of a list. What has been read is returned with the tokens behind it
and the proof that these are fewer, so readings that go on with the rest come to an end. A list is
bounded by the number of tokens that it has fewer than; a nested reading is one of lists with a
smaller bound.
-/

namespace BotScript

/-- Fewer than `n` tokens, which are about to be read. -/
structure Source (n : Nat) where
  tokens : List Token
  few : tokens.length < n

/-- Something read from the start of some tokens. -/
structure Parsed (α : Type) {n : Nat} (source : Source n) where
  value : α
  rest : Source n
  shorter : rest.tokens.length < source.tokens.length

/-- Something that may be absent, and the tokens behind it. -/
structure Trailing (α : Type) {n : Nat} (source : Source n) where
  value : α
  rest : Source n
  noLonger : rest.tokens.length ≤ source.tokens.length

/-- A way to read something from the start of fewer than `n` tokens. -/
abbrev Reading (n : Nat) (α : Type) :=
  (source : Source n) → Except Failure (Parsed α source)

variable {n : Nat} {α β : Type}

namespace Source

/-- A list of tokens, all of which are about to be read. -/
def all (tokens : List Token) : Source (tokens.length + 1) :=
  ⟨tokens, Nat.lt_succ_self _⟩

/-- The next token. -/
def next? (source : Source n) : Option (Parsed Token source) :=
  match source with
  | ⟨[], _⟩ => none
  | ⟨t :: rest, few⟩ => some ⟨t, ⟨rest, Nat.lt_of_succ_lt few⟩, Nat.lt_succ_self _⟩

/-- The position of the next token. -/
def position (source : Source n) : Position :=
  (source.tokens.head?.map Token.position).getD .start

end Source

namespace Parsed

variable {source : Source n}

/-- What has been read is made into something else. -/
def map (f : α → β) (parsed : Parsed α source) : Parsed β source :=
  ⟨f parsed.value, parsed.rest, parsed.shorter⟩

/-- What is read behind something, seen from in front of both. -/
def andThen (first : Parsed α source) (second : Parsed β first.rest) : Parsed β source :=
  ⟨second.value, second.rest, Nat.lt_trans second.shorter first.shorter⟩

/-- What may be absent behind something, seen from in front of both. -/
def andPerhaps (first : Parsed α source) (second : Trailing β first.rest) : Parsed β source :=
  ⟨second.value, second.rest, Nat.lt_of_le_of_lt second.noLonger first.shorter⟩

/-- Something read that could have been absent. -/
def trailing (parsed : Parsed α source) : Trailing α source :=
  ⟨parsed.value, parsed.rest, Nat.le_of_lt parsed.shorter⟩

/-- The tokens behind the first ones read have a smaller bound. -/
def inside {source : Source (n + 1)} (parsed : Parsed α source) : Source n :=
  ⟨parsed.rest.tokens, Nat.lt_of_lt_of_le parsed.shorter (Nat.le_of_lt_succ source.few)⟩

/-- Behind something, a reading with a smaller bound. -/
def within {source : Source (n + 1)} (parsed : Parsed α source) (nested : Reading n β) :
    Except Failure (Parsed β source) := do
  let inner ← nested parsed.inside
  return ⟨inner.value, ⟨inner.rest.tokens, Nat.lt_succ_of_lt inner.rest.few⟩,
    Nat.lt_trans inner.shorter parsed.shorter⟩

end Parsed

namespace Trailing

variable {source : Source n}

/-- Something absent, and what stands for it. -/
def absent (value : α) : Trailing α source :=
  ⟨value, source, Nat.le_refl _⟩

/-- What is read behind something that may be absent, seen from in front of both. -/
def andThen (first : Trailing α source) (second : Parsed β first.rest) : Parsed β source :=
  ⟨second.value, second.rest, Nat.lt_of_lt_of_le second.shorter first.noLonger⟩

/-- What may be absent behind something that may be absent, seen from in front of both. -/
def andPerhaps (first : Trailing α source) (second : Trailing β first.rest) : Trailing β source :=
  ⟨second.value, second.rest, Nat.le_trans second.noLonger first.noLonger⟩

end Trailing

namespace Reading

/-- A problem blamed on the next token. -/
def complain {γ : Type} (problem : Problem) (source : Source n) : Except Failure γ :=
  .error (.complaint ⟨problem, source.tokens.head?⟩)

/-- Something else than the next token is wanted. -/
def want {γ : Type} (expectation : Expectation) (source : Source n) : Except Failure γ :=
  complain (.wanted expectation) source

/-- There is nothing to read in fewer than no tokens. -/
def impossible : Reading 0 α :=
  fun source => absurd source.few (Nat.not_lt_zero _)

/-- What has been read is made into something else. -/
def map (f : α → β) (reading : Reading n α) : Reading n β :=
  fun source => do return (← reading source).map f

/-- One reading behind another, which it may look at. -/
def andThen (first : Reading n α) (second : α → Reading n β) : Reading n β :=
  fun source => do
    let a ← first source
    let b ← second a.value a.rest
    return a.andThen b

/-- One token that passes a test. -/
def token (test : Token → Bool) (expectation : Expectation) : Reading n Token :=
  fun source =>
    match source.next? with
    | none => want expectation source
    | some next => if test next.value then .ok next else want expectation source

/-- A symbol of one character. -/
def symbol (kind : TokenKind) (text : String) : Reading n Token :=
  token (·.kind = kind) (.symbol text)

/-- A comma, or else the symbol that closes what the comma goes on with; true for the comma. -/
def separator (closing : TokenKind) (text : String) : Reading n Bool :=
  (token (fun t => t.kind = .comma || t.kind = closing) (.symbol text)).map (·.kind = .comma)

/-- The next token when it passes a test; true when there was one. -/
def skip (test : Token → Bool) (source : Source n) : Trailing Bool source :=
  match source.next? with
  | none => .absent false
  | some next => if test next.value then (next.map fun _ => true).trailing else .absent false

/-- A plain variable name. -/
def bindingName (site : BindingSite) : Reading n String :=
  fun source => do
    let name ← token (fun t => t.kind = .dollarName || t.kind = .name) (.bindingName site) source
    if name.value.isDotted then complain (.propertyPath site) source else return name.map Token.text

/-- A plain variable name behind the word `as`, if that word comes next. -/
def bindingAfterAs (site : BindingSite) (source : Source n) :
    Except Failure (Trailing (Option String) source) :=
  match source.next? with
  | none => .ok (.absent none)
  | some word =>
    if word.value.isKeyword "as" then do
      let name ← bindingName site word.rest
      return ((word.andThen name).map some).trailing
    else .ok (.absent none)

end Reading

end BotScript
