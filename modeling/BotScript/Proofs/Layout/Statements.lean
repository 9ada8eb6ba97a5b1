import BotScript.Proofs.Layout.Expressions
import BotScript.Syntax.Stmt.Reader

/-! Texts with holes and statements read without a look at positions. -/

namespace BotScript

open Failure (EndAlike)

namespace Reading

open BotScript.Expr Template

/-! ## Texts with holes -/

/-- Parts of texts that differ in positions alone. -/
def SegmentsUnplaced (segments others : List Segment) : Prop :=
  relocateSegments .start segments = relocateSegments .start others

theorem segments_alike {hole hole' : List Char → Except Failure Expr}
    (holes : ∀ chars, EndAlike Unplaced (hole chars) (hole' chars)) (parts : List Part) :
    EndAlike SegmentsUnplaced (segments hole parts) (segments hole' parts) := by
  induction parts with
  | nil => exact .ok rfl
  | cons part rest ih =>
    cases part with
    | text chars =>
      exact ih.bind fun _ _ look => .ok (congrArg (Segment.text (String.ofList chars) :: ·) look)
    | hole chars =>
      refine (holes chars).bind fun _ _ value => ih.bind fun _ _ look => .ok ?_
      exact congrArg₂ (Segment.hole · :: ·) value look

theorem templateWith_alike {hole hole' : List Char → Except Failure Expr}
    (holes : ∀ chars, EndAlike Unplaced (hole chars) (hole' chars)) {token other : Token}
    (tokens : token.Alike other) :
    EndAlike Unplaced (templateWith hole token) (templateWith hole' other) := by
  unfold templateWith
  rw [← tokens.text]
  refine (segments_alike holes _).bind fun segments segments' look => ?_
  cases (cut token.text.toList).problem with
  | some problem => exact .error (.complaint (.some tokens))
  | none =>
    have template (p q : Position) : Unplaced (.template segments p) (.template segments' q) :=
      congrArg (Expr.template · .start) look
    match segments, segments' with
    | [], [] => exact .ok (.literal _)
    | [], .text _ :: _ | [], .hole _ :: _ | .text _ :: _, [] | .hole _ :: _, [] => cases look
    | .text _ :: _, .hole _ :: _ | .hole _ :: _, .text _ :: _ => cases (List.cons.inj look).1
    | [.text s], [.text s'] =>
      obtain rfl := Segment.text.inj (List.cons.inj look).1
      exact .ok (.literal _)
    | [.text _], .text _ :: .text _ :: _ | [.text _], .text _ :: .hole _ :: _ =>
      cases (List.cons.inj look).2
    | .text _ :: .text _ :: _, [.text _] | .text _ :: .hole _ :: _, [.text _] =>
      cases (List.cons.inj look).2
    | .text _ :: _ :: _, .text _ :: _ :: _ => exact .ok (template _ _)
    | .hole _ :: _, .hole _ :: _ => exact .ok (template _ _)

theorem hole_alike (template : Token → Except Failure Expr) {token other : Token}
    (tokens : token.Alike other) (chars : List Char) :
    EndAlike Unplaced (hole template token chars) (hole template other chars) := by
  have blame (reason : String) :
      EndAlike Unplaced (.error (.complaint ⟨.badHole (String.ofList chars) reason, some token⟩))
      (.error (.complaint ⟨.badHole (String.ofList chars) reason, some other⟩)) :=
        .error (.complaint (.some tokens))
  unfold hole
  dsimp only
  split
  · exact blame _
  · split
    · exact blame _
    · exact .error (.numeral _)
    · split
      · exact .ok (Unplaced.relocate rfl)
      · exact blame _

theorem templateWithin_unplacing (depth : Nat) :
    Unplacing (templateWithin depth) (templateWithin depth) := by
  intro token other tokens
  cases depth with
  | zero => exact templateWith_alike (fun _ => .error (.complaint (.some tokens))) tokens
  | succ depth => exact templateWith_alike (hole_alike _ tokens) tokens

/-- What a text stands for does not depend on where it stands. -/
theorem template_unplacing : Unplacing template template := by
  intro token other tokens
  unfold template
  rw [tokens.text]
  exact templateWithin_unplacing _ token other tokens

theorem expression_blind (n : Nat) :
    Abreast Unplaced (expression template : Reading n Expr) (expression template) :=
  expression_abreast template_unplacing n

/-- Tokens of the same kinds and texts are read alike. -/
theorem expression_alike {tokens tokens' : List Token}
    (same : List.Forall₂ Token.Alike tokens tokens') :
    EndAlike (fun parsed parsed' => parsed.value.Unplaced parsed'.value ∧
        List.Forall₂ Token.Alike parsed.rest.tokens parsed'.rest.tokens)
      (expression template (.all tokens)) (expression template (.all tokens')) := by
  have bounded {m : Nat} (few : tokens'.length < m) (bound : tokens.length + 1 = m) :
      EndAlike (fun parsed parsed' => parsed.value.Unplaced parsed'.value ∧
          List.Forall₂ Token.Alike parsed.rest.tokens parsed'.rest.tokens)
        (expression template (.all tokens)) (expression template ⟨tokens', few⟩) := by
    subst bound
    have alike := expression_blind _ (.all tokens) ⟨tokens', few⟩ same
    generalize expression template (.all tokens) = result at alike ⊢
    generalize expression template ⟨tokens', few⟩ = result' at alike ⊢
    cases alike with
    | ok values => exact .ok ⟨values.value, values.rest⟩
    | error failures => exact .error failures
  exact bounded (Nat.lt_succ_self _) (congrArg Nat.succ same.length_eq)

/-! ## Statements -/

variable {n : Nat}

/-- Statements that differ in positions alone. -/
def StmtUnplaced (stmt other : Stmt) : Prop :=
  stmt.seen Position.blind = other.seen Position.blind

/-- Lists of statements that differ in positions alone. -/
def StmtsUnplaced (stmts others : List Stmt) : Prop :=
  Stmt.seenAll Position.blind stmts = Stmt.seenAll Position.blind others

theorem StmtUnplaced.branch {condition condition' : Expr} {thenBody thenBody' : List Stmt}
    {elseBody elseBody' : Option (List Stmt)} (conditions : condition.Unplaced condition')
    (thens : StmtsUnplaced thenBody thenBody')
    (elses : Stmt.seenElse Position.blind elseBody = Stmt.seenElse Position.blind elseBody')
    (p q : Position) :
    StmtUnplaced (.branch condition thenBody elseBody p)
      (.branch condition' thenBody' elseBody' q) := by
  change Stmt.branch (condition.seen _) (Stmt.seenAll _ thenBody)
    (Stmt.seenElse _ elseBody) .start = _
  rw [conditions, thens, elses]
  rfl

theorem StmtUnplaced.loop {item item' : String} {collection collection' : Expr}
    {body body' : List Stmt} (items : item = item') (collections : collection.Unplaced collection')
    (bodies : StmtsUnplaced body body') (p q : Position) :
    StmtUnplaced (.loop item collection body p) (.loop item' collection' body' q) := by
  change Stmt.loop item (collection.seen _) (Stmt.seenAll _ body) .start = _
  rw [items, collections, bodies]
  rfl

theorem block_alike (owner : BlockOwner) {statement statement' : Reading n Stmt}
    (alike : Abreast StmtUnplaced statement statement') {source source' : Source n}
    (sources : source.Alike source') :
    EndAlike (Parsed.Alike fun all all' => StmtsUnplaced all.1 all'.1 ∧ all.2.Alike all'.2)
      (block owner statement source)
      (block owner statement' source') := by
  rw [block, block]
  rcases next?_alike sources with ⟨ended, ended'⟩ | ⟨next, next', taken, taken', nexts⟩
  · rw [ended, ended']
    exact want_alike _ sources
  · rw [taken, taken']
    refine .ite (by rw [nexts.value.test owner.isClosedBy fun _ _ _ _ => rfl])
      (.ok ⟨⟨rfl, nexts.value⟩, nexts.rest⟩) ?_
    refine (alike _ _ sources).bind fun first first' firsts => ?_
    refine (block_alike owner alike firsts.rest).bind fun others others' rests => ?_
    exact .ok ⟨⟨congrArg₂ List.cons firsts.value rests.value.1, rests.value.2⟩, rests.rest⟩
termination_by source.tokens.length
decreasing_by exact first.shorter

theorem put_unplaced {entries others : List (String × Expr)} (look : EntriesUnplaced entries others)
    (key : String) {value other : Expr} (values : value.Unplaced other) :
    EntriesUnplaced (Entries.put entries key value) (Entries.put others key other) := by
  induction entries generalizing others with
  | nil =>
    obtain rfl := List.map_eq_nil_iff.mp look.symm
    exact congrArg (fun e => [(key, e)]) values
  | cons entry rest ih =>
    cases others with
    | nil => cases look
    | cons other rest' =>
      obtain ⟨name, expr⟩ := entry
      obtain ⟨name', expr'⟩ := other
      obtain ⟨first, later⟩ := List.cons.inj look
      obtain ⟨rfl, same⟩ := Prod.mk.inj first
      unfold Entries.put
      split
      · exact congrArg₂ (fun e es => (name, e) :: es) values later
      · exact congrArg₂ (fun e es => (name, e) :: es) same (ih later)

theorem bareOptions_alike {before before' : List (String × Expr)}
    (look : EntriesUnplaced before before') {source source' : Source n}
    (sources : source.Alike source') :
    EndAlike (Parsed.Alike EntriesUnplaced) (bareOptions before source)
      (bareOptions before' source') := by
  rw [bareOptions, bareOptions]
  refine (token_abreast (fun _ _ _ _ => rfl) _ _ _ sources).bind fun key key' keys => ?_
  refine (symbol_abreast _ _ _ _ keys.rest).bind fun colon colon' colons => ?_
  refine (expression_blind n _ _ colons.rest).bind fun value value' values => ?_
  have more : EntriesUnplaced (Entries.put before key.value.text value.value)
      (Entries.put before' key'.value.text value'.value) := by
    rw [keys.value.text]
    exact put_unplaced look _ values.value
  rcases next?_alike values.rest with ⟨ended, ended'⟩ | ⟨comma, comma', taken, taken', commas⟩
  · rw [ended, ended']
    exact .ok ⟨more, values.rest⟩
  · rw [taken, taken']
    refine .ite (by rw [commas.value.kind]) ?_ (.ok ⟨more, values.rest⟩)
    refine (bareOptions_alike more commas.rest).bind fun all all' rests => ?_
    exact .ok ⟨rests.value, rests.rest⟩
termination_by source.tokens.length
decreasing_by exact (key.andThen (colon.andThen (value.andThen comma))).shorter

theorem options_alike {source source' : Source n} (sources : source.Alike source') :
    EndAlike (Trailing.Alike EntriesUnplaced) (options source) (options source') := by
  unfold options
  rcases next?_alike sources with ⟨ended, ended'⟩ | ⟨word, word', taken, taken', words⟩
  · rw [ended, ended']
    exact .ok ⟨rfl, sources⟩
  · rw [taken, taken']
    refine .ite (by rw [words.value.test (·.isKeyword "with") fun _ _ _ _ => rfl]) ?_
      (.ok ⟨rfl, sources⟩)
    refine .ite (by rw [head?_any words.rest fun _ _ _ _ => rfl]) ?_ ?_
    · refine (entries_abreast (expression_blind n) _ _ words.rest).bind fun all all' alls => ?_
      exact .ok ⟨alls.value, alls.rest⟩
    · exact (bareOptions_alike rfl words.rest).bind fun all all' alls => .ok ⟨alls.value, alls.rest⟩

variable {p q : Position}

theorem say_abreast : Abreast StmtUnplaced (say p : Reading n Stmt) (say q) :=
  map_abreast (expression_blind n) fun _ _ look => congrArg (Stmt.say · .start) look

theorem ask_abreast : Abreast StmtUnplaced (ask p : Reading n Stmt) (ask q) := by
  intro source source' sources
  refine (token_abreast (fun _ _ _ _ => rfl) _ _ _ sources).bind fun word word' words => ?_
  refine (expression_blind n _ _ words.rest).bind fun prompt prompt' prompts => ?_
  refine (options_alike prompts.rest).bind fun all all' alls => ?_
  exact .ok ⟨congrArg₂ (Stmt.ask · · .start) prompts.value alls.value, alls.rest⟩

theorem set_abreast : Abreast StmtUnplaced (set p : Reading n Stmt) (set q) := by
  intro source source' sources
  refine (bindingName_abreast _ _ _ sources).bind fun name name' names => ?_
  have blind : Token.Blind fun t => isOperator "=" t || t.is .name "to" := fun _ _ _ _ => rfl
  have links := skip_alike blind names.rest
  refine (expression_blind n _ _ links.rest).bind fun value value' values => ?_
  exact .ok ⟨congrArg₂ (Stmt.set · · .start) names.value values.value, values.rest⟩

theorem call_abreast : Abreast StmtUnplaced (call p : Reading n Stmt) (call q) := by
  intro source source' sources
  refine (token_abreast (fun _ _ _ _ => rfl) _ _ _ sources).bind fun tool tool' tools => ?_
  rw [tools.value.text]
  refine (token_abreast (fun _ _ _ _ => rfl) _ _ _ tools.rest).bind fun link link' links => ?_
  refine (entries_abreast (expression_blind n) _ _ links.rest).bind fun args args' argss => ?_
  refine (bindingAfterAs_alike _ argss.rest).bind fun name name' names => .ok ⟨?_, names.rest⟩
  exact congrArg₂ (Stmt.call tool'.value.text · · .start) argss.value names.value

theorem remember_abreast : Abreast StmtUnplaced (remember p : Reading n Stmt) (remember q) := by
  intro source source' sources
  refine (expression_blind n _ _ sources).bind fun key key' keys => ?_
  refine (token_abreast (fun _ _ _ _ => rfl) _ _ _ keys.rest).bind fun link link' links => ?_
  rw [links.value.test (·.isKeyword "as") fun _ _ _ _ => rfl]
  refine (expression_blind n _ _ links.rest).bind fun value value' values => .ok ⟨?_, values.rest⟩
  exact congrArg₂ (Stmt.remember · · _ .start) keys.value values.value

theorem recollect_abreast : Abreast StmtUnplaced (recollect p : Reading n Stmt) (recollect q) := by
  intro source source' sources
  refine (expression_blind n _ _ sources).bind fun key key' keys => ?_
  refine (bindingAfterAs_alike _ keys.rest).bind fun name name' names => .ok ⟨?_, names.rest⟩
  exact congrArg₂ (fun e (name : Option String) =>
    Stmt.recollect e (name.getD Stmt.resultName) .start) keys.value names.value

section

variable {statement statement' : Reading n Stmt}

theorem branch_abreast (alike : Abreast StmtUnplaced statement statement') :
    Abreast StmtUnplaced (branch statement p) (branch statement' q) := by
  intro source source' sources
  refine (expression_blind n _ _ sources).bind fun condition condition' conditions => ?_
  refine (block_alike _ alike conditions.rest).bind fun thenBody thenBody' thens => ?_
  refine .ite (by rw [thens.value.2.test (·.isKeyword "else") fun _ _ _ _ => rfl]) ?_ ?_
  · refine (block_alike _ alike thens.rest).bind fun elseBody elseBody' elses =>
      .ok ⟨?_, elses.rest⟩
    have others : Stmt.seenElse Position.blind (some elseBody.value.1) =
        Stmt.seenElse Position.blind (some elseBody'.value.1) := congrArg some elses.value.1
    exact .branch conditions.value thens.value.1 others p q
  · exact .ok ⟨.branch conditions.value thens.value.1 rfl p q, thens.rest⟩

theorem loop_abreast (alike : Abreast StmtUnplaced statement statement') :
    Abreast StmtUnplaced (loop statement p) (loop statement' q) := by
  intro source source' sources
  refine (bindingName_abreast _ _ _ sources).bind fun item item' items => ?_
  refine (token_abreast (fun _ _ _ _ => rfl) _ _ _ items.rest).bind fun link link' links => ?_
  refine (reference_abreast _ _ links.rest).bind fun collection collection' collections => ?_
  refine (block_alike _ alike collections.rest).bind fun body body' bodies => .ok ⟨?_, bodies.rest⟩
  exact .loop items.value collections.value bodies.value.1 p q

private theorem rel_ite {α β : Type} {r : α → β → Prop} {c c' : Prop} [Decidable c] [Decidable c']
    (same : c ↔ c') {yes no : Option α} {yes' no' : Option β} (first : Option.Rel r yes yes')
    (second : Option.Rel r no no') :
    Option.Rel r (if c then yes else no) (if c' then yes' else no') := by
  by_cases holds : c
  · rwa [if_pos holds, if_pos (same.mp holds)]
  · rwa [if_neg holds, if_neg fun holds' => holds (same.mpr holds')]

/-- What the first word of a statement leads to does not depend on where it stands. -/
theorem statementBehind_alike (alike : Abreast StmtUnplaced statement statement')
    {word word' : Token} (words : word.Alike word') :
    Option.Rel (Abreast StmtUnplaced) (statementBehind word statement)
      (statementBehind word' statement') := by
  have keyword (name : String) : word.isKeyword name ↔ word'.isKeyword name := by
    rw [words.test (·.isKeyword name) fun _ _ _ _ => rfl]
  have recalls : word.is .name "recall" ↔ word'.is .name "recall" := by
    rw [words.test (·.is .name "recall") fun _ _ _ _ => rfl]
  refine rel_ite (keyword "say") (.some say_abreast) ?_
  refine rel_ite (keyword "ask") (.some ask_abreast) ?_
  refine rel_ite (keyword "set") (.some set_abreast) ?_
  refine rel_ite (keyword "call") (.some call_abreast) ?_
  refine rel_ite (keyword "if") (.some (branch_abreast alike)) ?_
  refine rel_ite (keyword "loop") (.some (loop_abreast alike)) ?_
  refine rel_ite (keyword "remember") (.some remember_abreast) ?_
  exact rel_ite recalls (.some recollect_abreast) .none

theorem statementWith_abreast (alike : Abreast StmtUnplaced statement statement') :
    Abreast StmtUnplaced (statementWith statement) (statementWith statement') := by
  intro source source' sources
  unfold statementWith
  rcases next?_alike sources with ⟨ended, ended'⟩ | ⟨word, word', taken, taken', words⟩
  · rw [ended, ended']
    exact want_alike _ sources
  · rw [taken, taken']
    dsimp only
    have behind := statementBehind_alike alike words.value
    revert behind
    generalize statementBehind word.value statement = reading
    generalize statementBehind word'.value statement' = reading'
    intro behind
    cases behind with
    | none => exact want_alike _ sources
    | some readings => exact within_alike words.rest readings

end

theorem statement_abreast (n : Nat) :
    Abreast StmtUnplaced (statement : Reading n Stmt) statement := by
  induction n with
  | zero => exact fun source _ _ => absurd source.few (Nat.not_lt_zero _)
  | succ n ih => exact statementWith_abreast ih

end Reading

end BotScript
