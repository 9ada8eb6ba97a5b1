import BotScript.Proofs.Alike.Sight
import BotScript.Proofs.Layout.Tokens
import BotScript.Syntax.Template

/-! Expressions read without a look at positions. Tokens of the same kinds and texts stand for
expressions that differ in positions alone, also where a text has holes: a hole is read from its own
characters, and only then put in its place. -/

namespace BotScript

open Failure (EndAlike)

namespace Expr

/-- Two expressions that differ in positions alone. -/
def Unplaced (expr other : Expr) : Prop :=
  expr.seen Position.blind = other.seen Position.blind

/-- Lists of expressions that differ in positions alone. -/
def AllUnplaced (exprs others : List Expr) : Prop :=
  exprs.map (seen Position.blind) = others.map (seen Position.blind)

/-- Named expressions that differ in positions alone. -/
def EntriesUnplaced (entries others : List (String × Expr)) : Prop :=
  seenEntries Position.blind entries = seenEntries Position.blind others

variable {p q : Position}

/-- An expression that is moved differs in positions alone. -/
theorem Unplaced.relocate {expr other : Expr} (look : expr.Unplaced other) :
    (expr.relocate p).Unplaced (other.relocate q) := by
  unfold Unplaced seen
  rw [relocate_relocate, relocate_relocate]
  exact look

/-- Where they are moved to the same place, nothing of the difference is left. -/
theorem Unplaced.relocate_eq {expr other : Expr} (look : expr.Unplaced other) (p : Position) :
    expr.relocate p = other.relocate p := by
  have moved := congrArg (Expr.relocate p) look
  unfold seen at moved
  rwa [relocate_relocate, relocate_relocate] at moved

namespace Unplaced

theorem literal (value : Value) : Unplaced (.literal value p) (.literal value q) := rfl

theorem reference (name : String) : Unplaced (.reference name p) (.reference name q) := rfl

theorem list {items others : List Expr} (look : AllUnplaced items others) :
    Unplaced (.list items p) (.list others q) := by
  change Expr.list (relocateAll .start items) .start = .list (relocateAll .start others) .start
  rw [relocateAll_eq_map, relocateAll_eq_map]
  exact congrArg (Expr.list · .start) look

theorem object {entries others : List (String × Expr)} (look : EntriesUnplaced entries others) :
    Unplaced (.object entries p) (.object others q) := by
  change Expr.object (relocateEntries .start entries) .start =
    .object (relocateEntries .start others) .start
  rw [relocateEntries_eq_map, relocateEntries_eq_map]
  exact congrArg (Expr.object · .start) look

theorem property {base other : Expr} (look : base.Unplaced other) (path : List String) :
    Unplaced (.property base path p) (.property other path q) :=
  congrArg (Expr.property · path .start) look

theorem junction (connective : Junction) {operands others : List Expr}
    (look : AllUnplaced operands others) :
    Unplaced (.junction connective operands p) (.junction connective others q) := by
  change Expr.junction connective (relocateAll .start operands) .start =
    .junction connective (relocateAll .start others) .start
  rw [relocateAll_eq_map, relocateAll_eq_map]
  exact congrArg (Expr.junction connective · .start) look

theorem concat {parts others : List Expr} (look : AllUnplaced parts others) :
    Unplaced (.concat parts p) (.concat others q) := by
  change Expr.concat (relocateAll .start parts) .start = .concat (relocateAll .start others) .start
  rw [relocateAll_eq_map, relocateAll_eq_map]
  exact congrArg (Expr.concat · .start) look

theorem negation {operand other : Expr} (look : operand.Unplaced other) :
    Unplaced (.negation operand p) (.negation other q) :=
  congrArg (Expr.negation · .start) look

theorem contains {left left' right right' : Expr} (first : left.Unplaced left')
    (second : right.Unplaced right') :
    Unplaced (.contains left right p) (.contains left' right' q) :=
  congrArg₂ (Expr.contains · · .start) first second

theorem equals {left left' right right' : Expr} (first : left.Unplaced left')
    (second : right.Unplaced right') (negated : Bool) :
    Unplaced (.equals left right negated p) (.equals left' right' negated q) :=
  congrArg₂ (Expr.equals · · negated .start) first second

theorem coalesce {left left' right right' : Expr} (first : left.Unplaced left')
    (second : right.Unplaced right') :
    Unplaced (.coalesce left right p) (.coalesce left' right' q) :=
  congrArg₂ (Expr.coalesce · · .start) first second

end Unplaced

end Expr

namespace Reading

open BotScript.Expr Template

variable {n : Nat}

/-- A reader of texts that does not look at positions. -/
def Unplacing (template template' : Token → Except Failure Expr) : Prop :=
  ∀ token other : Token, token.Alike other → EndAlike Unplaced (template token) (template' other)

theorem referenceOf_unplaced {token other : Token} (tokens : token.Alike other) :
    Unplaced (referenceOf token) (referenceOf other) := by
  rw [tokens.eq]
  unfold referenceOf
  dsimp only
  split
  · exact .reference _
  · exact .property (.reference _) _

theorem reference_abreast : Abreast Unplaced (reference : Reading n Expr) reference :=
  map_abreast (token_abreast (fun _ _ _ _ => rfl) _) fun _ _ => referenceOf_unplaced

theorem numberOf_alike {token other : Token} (tokens : token.Alike other) :
    EndAlike Eq (numberOf token) (numberOf other) := by
  have same : numberOf token = numberOf other := tokens.test numberOf fun _ _ _ _ => rfl
  rw [same]
  unfold numberOf
  repeat' split
  all_goals first | exact .ok rfl | exact .error (.numeral _)

/-- Items are read one after the other, by recursion on the tokens. -/
theorem items_alike {nested nested' : Reading n Expr} (alike : Abreast Unplaced nested nested')
    {source source' : Source n} (sources : source.Alike source') :
    EndAlike (Parsed.Alike AllUnplaced) (items nested source) (items nested' source') := by
  rw [items, items]
  rcases next?_alike sources with ⟨ended, ended'⟩ | ⟨next, next', taken, taken', nexts⟩
  · rw [ended, ended']
    exact want_alike _ sources
  · rw [taken, taken']
    refine .ite (by rw [nexts.value.kind]) (.ok ⟨rfl, nexts.rest⟩) ?_
    refine (alike source source' sources).bind fun first first' firsts => ?_
    refine (separator_abreast _ _ _ _ firsts.rest).bind fun stop stop' stops => ?_
    refine .ite (by rw [stops.value]) ?_ (.ok ⟨?_, stops.rest⟩)
    · refine (items_alike alike stops.rest).bind fun others others' rests => ?_
      exact .ok ⟨congrArg₂ List.cons firsts.value rests.value, rests.rest⟩
    · exact congrArg (List.cons · []) firsts.value
termination_by source.tokens.length
decreasing_by exact (first.andThen stop).shorter

theorem keys_unplaced {entries others : List (String × Expr)}
    (look : EntriesUnplaced entries others) :
    Entries.keys entries = Entries.keys others := by
  have keys := congrArg (List.map Prod.fst) look
  simpa [seenEntries, Entries.keys, Function.comp_def] using keys

theorem has_unplaced {entries others : List (String × Expr)} (look : EntriesUnplaced entries others)
    (key : String) :
    Entries.has entries key = Entries.has others key := by
  unfold Entries.has
  rw [Bool.eq_iff_iff, Entries.get?_isSome_iff, Entries.get?_isSome_iff, keys_unplaced look]

theorem entriesAfter_alike {nested nested' : Reading n Expr}
    (alike : Abreast Unplaced nested nested') {before before' : List (String × Expr)}
    (look : EntriesUnplaced before before') {source source' : Source n}
    (sources : source.Alike source') :
    EndAlike (Parsed.Alike EntriesUnplaced) (entriesAfter nested before source)
      (entriesAfter nested' before' source') := by
  rw [entriesAfter, entriesAfter]
  rcases next?_alike sources with ⟨ended, ended'⟩ | ⟨key, key', taken, taken', keys⟩
  · rw [ended, ended']
    exact want_alike _ sources
  · rw [taken, taken']
    refine .ite (by rw [keys.value.kind]) (.ok ⟨look, keys.rest⟩) ?_
    refine .ite ?_ (want_alike _ sources) ?_
    · rw [keys.value.test isObjectKey fun _ _ _ _ => rfl]
    refine .ite (by rw [keys.value.text, has_unplaced look]) ?_ ?_
    · rw [keys.value.text]
      exact complain_alike _ sources
    · refine (symbol_abreast _ _ _ _ keys.rest).bind fun colon colon' colons => ?_
      refine (alike _ _ colons.rest).bind fun value value' values => ?_
      refine (separator_abreast _ _ _ _ values.rest).bind fun stop stop' stops => ?_
      have more : EntriesUnplaced (before ++ [(key.value.text, value.value)])
          (before' ++ [(key'.value.text, value'.value)]) := by
        unfold EntriesUnplaced seenEntries at look ⊢
        rw [List.map_append, List.map_append, look, keys.value.text]
        exact congrArg (fun e => _ ++ [(key'.value.text, e)]) values.value
      refine .ite (by rw [stops.value]) ?_ (.ok ⟨more, stops.rest⟩)
      refine (entriesAfter_alike alike more stops.rest).bind fun all all' rests => ?_
      exact .ok ⟨rests.value, rests.rest⟩
termination_by source.tokens.length
decreasing_by exact (key.andThen (colon.andThen (value.andThen stop))).shorter

theorem entries_abreast {nested nested' : Reading n Expr}
    (alike : Abreast Unplaced nested nested') :
    Abreast EntriesUnplaced (entries nested) (entries nested') := by
  intro source source' sources
  refine (symbol_abreast _ _ _ _ sources).bind fun opening opening' openings => ?_
  refine (entriesAfter_alike alike rfl openings.rest).bind fun all all' rests => ?_
  exact .ok ⟨rests.value, rests.rest⟩

theorem operand_abreast {template template' : Token → Except Failure Expr}
    (texts : Unplacing template template') {nested nested' : Reading n Expr}
    (alike : Abreast Unplaced nested nested') :
    Abreast Unplaced (operand template nested) (operand template' nested') := by
  intro source source' sources
  unfold operand
  rcases next?_alike sources with ⟨ended, ended'⟩ | ⟨next, next', taken, taken', nexts⟩
  · rw [ended, ended']
    exact want_alike _ sources
  · rw [taken, taken']
    refine .ite (by rw [nexts.value.test Token.isString fun _ _ _ _ => rfl]) ?_ ?_
    · refine (texts _ _ nexts.value).bind fun value value' values => ?_
      exact .ok ⟨values, nexts.rest⟩
    refine .ite (by rw [nexts.value.kind]) ?_ ?_
    · refine (numberOf_alike nexts.value).bind fun value _ same => ?_
      subst same
      exact .ok ⟨.literal value, nexts.rest⟩
    refine .ite (by rw [nexts.value.test (·.isKeyword "true") fun _ _ _ _ => rfl,
      nexts.value.test (·.isKeyword "false") fun _ _ _ _ => rfl]) (.ok ⟨?_, nexts.rest⟩) ?_
    · change Unplaced (.literal (.boolean (decide (next.value.text = "true"))) _) _
      rw [nexts.value.text]
      exact .literal _
    refine .ite (by rw [nexts.value.test (·.is .name "null") fun _ _ _ _ => rfl])
      (.ok ⟨.literal _, nexts.rest⟩) ?_
    refine .ite (by rw [nexts.value.test isReference fun _ _ _ _ => rfl])
      (.ok ⟨referenceOf_unplaced nexts.value, nexts.rest⟩) ?_
    refine .ite (by rw [nexts.value.kind]) ?_ ?_
    · have list : Abreast AllUnplaced (items nested) (items nested') :=
        fun _ _ inner => items_alike alike inner
      exact within_alike nexts.rest (map_abreast list fun _ _ look => .list look)
    refine .ite (by rw [nexts.value.kind]) ?_ ?_
    · have object : Abreast EntriesUnplaced (entriesAfter nested []) (entriesAfter nested' []) :=
        fun _ _ inner => entriesAfter_alike alike rfl inner
      exact within_alike nexts.rest (map_abreast object fun _ _ look => .object look)
    refine .ite (by rw [nexts.value.kind]) ?_ (want_alike _ sources)
    refine within_alike nexts.rest fun _ _ inner =>
      (alike _ _ inner).bind fun value value' values => ?_
    have closed : Abreast Unplaced
        (map (fun _ => value.value) (symbol .rightParen ")" : Reading n Token))
        (map (fun _ => value'.value) (symbol .rightParen ")")) :=
      map_abreast (symbol_abreast _ _) fun _ _ _ => values.value
    refine (closed _ _ values.rest).bind fun closing closing' closings => ?_
    exact .ok ⟨closings.value, closings.rest⟩

theorem chain_alike {joins : Token → Bool} (blind : Token.Blind joins) {part part' : Reading n Expr}
    (alike : Abreast Unplaced part part') {source source' : Source n}
    (sources : source.Alike source') :
    EndAlike (Parsed.Alike AllUnplaced) (chain joins part source) (chain joins part' source') := by
  rw [chain, chain]
  refine (alike _ _ sources).bind fun first first' firsts => ?_
  have single : AllUnplaced [first.value] [first'.value] := congrArg (List.cons · []) firsts.value
  rcases next?_alike firsts.rest with ⟨ended, ended'⟩ | ⟨link, link', taken, taken', links⟩
  · rw [ended, ended']
    exact .ok ⟨single, firsts.rest⟩
  · rw [taken, taken']
    refine .ite (by rw [links.value.test joins blind]) ?_ (.ok ⟨single, firsts.rest⟩)
    refine (chain_alike blind alike links.rest).bind fun others others' rests => ?_
    exact .ok ⟨congrArg₂ List.cons firsts.value rests.value, rests.rest⟩
termination_by source.tokens.length
decreasing_by exact (first.andThen link).shorter

theorem joined_abreast {join : List Expr → Position → Expr}
    (joins_unplaced : ∀ parts parts' p q, AllUnplaced parts parts' →
      Unplaced (join parts p) (join parts' q))
    {joins : Token → Bool} (blind : Token.Blind joins) {part part' : Reading n Expr}
    (alike : Abreast Unplaced part part') :
    Abreast Unplaced (joined join joins part) (joined join joins part') := by
  intro source source' sources
  refine (chain_alike blind alike sources).bind fun all all' parts => .ok ⟨?_, parts.rest⟩
  have look := parts.value
  dsimp only [Parsed.map]
  generalize all.value = exprs at look ⊢
  generalize all'.value = exprs' at look ⊢
  -- The lists are as long as each other, so one of a single part faces one of a single part.
  have long : exprs.length = exprs'.length := by simpa using congrArg List.length look
  rcases exprs with _ | ⟨first, _ | ⟨second, others⟩⟩ <;>
    rcases exprs' with _ | ⟨first', _ | ⟨second', others'⟩⟩
  case cons.nil.cons.nil => exact (List.cons.inj look).1
  all_goals first
    | exact joins_unplaced _ _ _ _ look
    | simp at long

theorem coalesceAll_unplaced {parts parts' : List Expr} (p q : Position)
    (look : AllUnplaced parts parts') :
    Unplaced (coalesceAll parts p) (coalesceAll parts' q) := by
  cases parts with
  | nil =>
    obtain rfl := List.map_eq_nil_iff.mp look.symm
    exact .literal _
  | cons first others =>
    cases parts' with
    | nil => cases look
    | cons first' others' =>
      obtain ⟨same, rest⟩ := List.cons.inj look
      change Unplaced (others.foldl _ first) (others'.foldl _ first')
      have left : Unplaced first first' := same
      clear look same
      induction others generalizing first first' others' with
      | nil =>
        obtain rfl := List.map_eq_nil_iff.mp rest.symm
        exact left
      | cons next later ih =>
        cases others' with
        | nil => cases rest
        | cons next' later' =>
          obtain ⟨same, rest⟩ := List.cons.inj rest
          have both : Unplaced (.coalesce first next p) (.coalesce first' next' q) :=
            .coalesce left same
          exact ih _ _ later' rest both

theorem compare_unplaced {token other : Token} (tokens : token.Alike other)
    {left left' right right' : Expr} (first : left.Unplaced left') (second : right.Unplaced right')
    (p q : Position) :
    Unplaced (compare token left right p) (compare other left' right' q) := by
  unfold compare
  rw [tokens.text]
  split
  · exact .contains first second
  · exact .equals first second _

theorem comparison_abreast {part part' : Reading n Expr} (alike : Abreast Unplaced part part') :
    Abreast Unplaced (comparison part) (comparison part') := by
  intro source source' sources
  refine (alike _ _ sources).bind fun left left' lefts => ?_
  have blind : Token.Blind isComparison := fun _ _ _ _ => rfl
  rcases next?_alike lefts.rest with ⟨ended, ended'⟩ | ⟨sign, sign', taken, taken', signs⟩
  · rw [ended, ended']
    exact .ok lefts
  · rw [taken, taken']
    refine .ite (by rw [signs.value.test isComparison blind]) ?_ (.ok lefts)
    refine (alike _ _ signs.rest).bind fun right right' rights => ?_
    refine .ite (by rw [head?_any rights.rest blind]) (complain_alike _ rights.rest)
      (.ok ⟨?_, rights.rest⟩)
    exact compare_unplaced signs.value lefts.value rights.value _ _

theorem negated_alike {part part' : Reading n Expr} (alike : Abreast Unplaced part part')
    {source source' : Source n} (sources : source.Alike source') :
    EndAlike (Parsed.Alike Unplaced) (negated part source) (negated part' source') := by
  rw [negated, negated]
  rcases next?_alike sources with ⟨ended, ended'⟩ | ⟨word, word', taken, taken', words⟩
  · rw [ended, ended']
    exact alike _ _ sources
  · rw [taken, taken']
    refine .ite (by rw [words.value.test (·.isKeyword "not") fun _ _ _ _ => rfl]) ?_
      (alike _ _ sources)
    refine (negated_alike alike words.rest).bind fun inner inner' inners => ?_
    exact .ok ⟨.negation inners.value, inners.rest⟩
termination_by source.tokens.length
decreasing_by exact word.shorter

/-- An expression is read without a look at positions, when texts are. -/
theorem expression_abreast {template template' : Token → Except Failure Expr}
    (texts : Unplacing template template') (n : Nat) :
    Abreast Unplaced (expression template : Reading n Expr) (expression template') := by
  induction n with
  | zero => exact fun source _ _ => absurd source.few (Nat.not_lt_zero _)
  | succ n ih =>
    change Abreast Unplaced (expressionWith template (expression template))
      (expressionWith template' (expression template'))
    unfold expressionWith
    refine joined_abreast (fun _ _ _ _ look => .junction _ look) (fun _ _ _ _ => rfl) ?_
    refine joined_abreast (fun _ _ _ _ look => .junction _ look) (fun _ _ _ _ => rfl) ?_
    refine fun _ _ sources => negated_alike (comparison_abreast ?_) sources
    refine joined_abreast (fun _ _ _ _ look => .concat look) (fun _ _ _ _ => rfl) ?_
    refine joined_abreast (fun _ _ p q look => coalesceAll_unplaced p q look)
      (fun _ _ _ _ => rfl) ?_
    exact operand_abreast texts ih

end Reading

end BotScript
