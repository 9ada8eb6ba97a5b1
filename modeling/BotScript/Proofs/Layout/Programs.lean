import BotScript.Proofs.Layout.Statements
import BotScript.Syntax.Bot.Reader

/-! Programs read without a look at positions. Token lists of the same kinds and texts are programs
that differ in positions alone, or they are refused with the same complaint. -/

namespace BotScript

open Failure (EndAlike)

namespace Reading

open BotScript.Expr

variable {n : Nat} {p q : Position}

/-! ## Memory -/

/-- Variables that differ in positions alone. -/
def VariablesUnplaced (vars others : List MemoryVariable) : Prop :=
  vars.map (MemoryVariable.seen Position.blind) = others.map (MemoryVariable.seen Position.blind)

theorem typeName_alike {source source' : Source n} (sources : source.Alike source') :
    (typeName source).Alike Eq (typeName source') := by
  unfold typeName
  rcases next?_alike sources with ⟨ended, ended'⟩ | ⟨name, name', taken, taken', names⟩
  · rw [ended, ended']
    exact ⟨rfl, sources⟩
  · rw [taken, taken']
    dsimp only
    rw [names.value.kind, names.value.test Token.isDotted fun _ _ _ _ => rfl]
    split
    · exact ⟨names.value.text, names.rest⟩
    · exact ⟨rfl, sources⟩

theorem memoryVariable_abreast :
    Abreast (fun declared other => declared.seen Position.blind = other.seen Position.blind)
      (memoryVariable p : Reading n MemoryVariable) (memoryVariable q) := by
  intro source source' sources
  refine (bindingName_abreast _ _ _ sources).bind fun name name' names => ?_
  have blind : Token.Blind fun t : Token => decide (t.kind = .colon) := fun _ _ _ _ => rfl
  have colons := skip_alike blind names.rest
  have types := typeName_alike colons.rest
  exact .ok ⟨congrArg₂ (MemoryVariable.mk · · .start) names.value types.value, types.rest⟩

theorem VariablesUnplaced.any_name {vars others : List MemoryVariable}
    (look : VariablesUnplaced vars others) (name : String) :
    vars.any (·.name = name) = others.any (·.name = name) := by
  have same := congrArg (List.any · (·.name = name)) look
  rwa [List.any_map, List.any_map] at same

theorem memoryVariables_alike {before before' : List MemoryVariable}
    (look : VariablesUnplaced before before') {source source' : Source n}
    (sources : source.Alike source') :
    EndAlike (Parsed.Alike VariablesUnplaced) (memoryVariables before source)
      (memoryVariables before' source') := by
  rw [memoryVariables, memoryVariables]
  rcases next?_alike sources with ⟨ended, ended'⟩ | ⟨word, word', taken, taken', words⟩
  · rw [ended, ended']
    exact want_alike _ sources
  · rw [taken, taken']
    refine .ite (by rw [words.value.test (·.isKeyword "end") fun _ _ _ _ => rfl])
      (.ok ⟨look, words.rest⟩) ?_
    refine .ite (by rw [words.value.test (·.isKeyword "var") fun _ _ _ _ => rfl]) ?_
      (want_alike _ sources)
    refine (memoryVariable_abreast _ _ words.rest).bind fun next next' nexts => ?_
    have name : next.value.name = next'.value.name := by
      simpa [MemoryVariable.seen] using congrArg (·.name) nexts.value
    rw [name]
    refine .ite (by rw [look.any_name]) (complain_alike _ sources) ?_
    have more : VariablesUnplaced (before ++ [next.value]) (before' ++ [next'.value]) := by
      unfold VariablesUnplaced at look ⊢
      rw [List.map_append, List.map_append, look]
      exact congrArg (_ ++ [·]) nexts.value
    refine (memoryVariables_alike more nexts.rest).bind fun all all' alls => ?_
    exact .ok ⟨alls.value, alls.rest⟩
termination_by source.tokens.length
decreasing_by exact (word.andThen next).shorter

theorem memoryBlock_abreast :
    Abreast (fun block other => block.seen Position.blind = other.seen Position.blind)
      (memoryBlock p : Reading n MemoryBlock) (memoryBlock q) := by
  intro source source' sources
  unfold memoryBlock
  rcases next?_alike sources with ⟨ended, ended'⟩ | ⟨word, word', taken, taken', words⟩
  · rw [ended, ended']
    exact want_alike _ sources
  · rw [taken, taken']
    dsimp only
    rw [words.value.kind, words.value.text]
    split
    · exact want_alike _ sources
    · rename_i scope _
      refine (memoryVariables_alike rfl words.rest).bind fun all all' alls => .ok ⟨?_, alls.rest⟩
      exact congrArg (MemoryBlock.mk scope · .start) alls.value

/-! ## Tools and handlers -/

theorem toolNames_alike {source source' : Source n} (sources : source.Alike source') :
    EndAlike (Parsed.Alike Eq) (toolNames source) (toolNames source') := by
  rw [toolNames, toolNames]
  refine (token_abreast (fun _ _ _ _ => rfl) _ _ _ sources).bind fun first first' firsts => ?_
  have single : [first.value.text] = [first'.value.text] := by rw [firsts.value.text]
  rcases next?_alike firsts.rest with ⟨ended, ended'⟩ | ⟨comma, comma', taken, taken', commas⟩
  · rw [ended, ended']
    exact .ok ⟨single, firsts.rest⟩
  · rw [taken, taken']
    refine .ite (by rw [commas.value.kind]) ?_ (.ok ⟨single, firsts.rest⟩)
    refine (toolNames_alike commas.rest).bind fun others others' rests => ?_
    exact .ok ⟨congrArg₂ List.cons firsts.value.text rests.value, rests.rest⟩
termination_by source.tokens.length
decreasing_by exact (first.andThen comma).shorter

theorem tools_abreast : Abreast Eq (tools : Reading n (List String)) tools := by
  intro source source' sources
  unfold tools
  rcases next?_alike sources with ⟨ended, ended'⟩ | ⟨opening, opening', taken, taken', openings⟩
  · rw [ended, ended']
    exact want_alike _ sources
  · rw [taken, taken']
    dsimp only
    rw [openings.value.test closing? fun _ _ _ _ => rfl]
    split
    · exact toolNames_alike sources
    · refine (toolNames_alike openings.rest).bind fun names names' same => ?_
      refine (token_abreast (fun _ _ _ _ => rfl) _ _ _ same.rest).bind
        fun closing closing' closings => ?_
      exact .ok ⟨same.value, closings.rest⟩

theorem guard_alike {source source' : Source n} (sources : source.Alike source') :
    EndAlike (Trailing.Alike fun guard other => guard.map (seen Position.blind) =
      other.map (seen Position.blind))
      (guard source) (guard source') := by
  unfold guard
  rcases next?_alike sources with ⟨ended, ended'⟩ | ⟨word, word', taken, taken', words⟩
  · rw [ended, ended']
    exact .ok ⟨rfl, sources⟩
  · rw [taken, taken']
    refine .ite (by rw [words.value.test (·.isKeyword "when") fun _ _ _ _ => rfl]) ?_
      (.ok ⟨rfl, sources⟩)
    refine (expression_blind n _ _ words.rest).bind fun inner inner' inners => ?_
    exact .ok ⟨congrArg Option.some inners.value, inners.rest⟩

theorem handler_abreast :
    Abreast (fun handler other => handler.seen Position.blind = other.seen Position.blind)
      (handler p : Reading n Handler) (handler q) := by
  intro source source' sources
  refine (token_abreast (fun _ _ _ _ => rfl) _ _ _ sources).bind fun event event' events => ?_
  refine (guard_alike events.rest).bind fun condition condition' conditions => ?_
  rw [events.value.text]
  refine (block_alike _ (statement_abreast n) conditions.rest).bind fun body body' bodies =>
    .ok ⟨?_, bodies.rest⟩
  exact congrArg₂ (Handler.mk event'.value.text · · .start) conditions.value bodies.value.1

/-! ## Bots -/

/-- Bots that differ in positions alone. -/
def BotUnplaced (bot other : Bot) : Prop :=
  bot.seen Position.blind = other.seen Position.blind

namespace BotUnplaced

variable {bot other : Bot}

theorem name (look : BotUnplaced bot other) : bot.name = other.name := by
  simpa [Bot.seen] using congrArg Bot.name look

theorem owner (look : BotUnplaced bot other) : ownerOf bot = ownerOf other := by
  have kind : bot.kind = other.kind := by simpa [Bot.seen] using congrArg Bot.kind look
  unfold ownerOf
  rw [kind, look.name]

theorem description (look : BotUnplaced bot other) : bot.description = other.description := by
  simpa [Bot.seen] using congrArg Bot.description look

theorem handlers (look : BotUnplaced bot other) :
    bot.handlers.map (Handler.seen Position.blind) =
      other.handlers.map (Handler.seen Position.blind) :=
  congrArg Bot.handlers look

theorem handlers_isEmpty (look : BotUnplaced bot other) :
    bot.handlers.isEmpty = other.handlers.isEmpty := by
  simpa using congrArg List.isEmpty look.handlers

end BotUnplaced

theorem declarationProblem?_same {bot other : Bot} (look : BotUnplaced bot other)
    {word word' : Token} (words : word.Alike word') :
    declarationProblem? bot word = declarationProblem? other word' := by
  have blind : Token.Blind (declarationProblem? other) := fun _ _ _ _ => rfl
  rw [← words.test _ blind]
  unfold declarationProblem?
  rw [look.owner, look.description, look.handlers_isEmpty]

theorem declaration_abreast {bot other : Bot} (look : BotUnplaced bot other) {word word' : Token}
    (words : word.Alike word') :
    Abreast BotUnplaced (declaration bot word : Reading n Bot) (declaration other word') := by
  have keyword (name : String) : word.isKeyword name ↔ word'.isKeyword name := by
    rw [words.test (·.isKeyword name) fun _ _ _ _ => rfl]
  obtain ⟨name, kind, description, memory, tools, handlers, place⟩ := bot
  obtain ⟨name', kind', description', memory', tools', handlers', place'⟩ := other
  obtain ⟨rfl, rfl, rfl, memories, rfl, handling, -⟩ := Bot.mk.inj look
  intro source source' sources
  refine .ite (keyword "on") ?_ (.ite (keyword "description") ?_ (.ite (keyword "memory") ?_ ?_))
  · refine (handler_abreast _ _ sources).bind fun next next' nexts => .ok ⟨?_, nexts.rest⟩
    have more : (handlers ++ [next.value]).map (Handler.seen Position.blind) =
        (handlers' ++ [next'.value]).map (Handler.seen Position.blind) := by
      rw [List.map_append, List.map_append, handling]
      exact congrArg (_ ++ [·]) nexts.value
    exact congrArg₂ (Bot.mk name kind description · tools · .start) memories more
  · refine (token_abreast (fun _ _ _ _ => rfl) _ _ _ sources).bind fun next next' nexts =>
      .ok ⟨?_, nexts.rest⟩
    change Bot.mk name kind (some next.value.text) (memory.map _) tools (handlers.map _) .start = _
    rw [nexts.value.text, memories, handling]
    rfl
  · refine (memoryBlock_abreast _ _ sources).bind fun next next' nexts => .ok ⟨?_, nexts.rest⟩
    have more : (memory ++ [next.value]).map (MemoryBlock.seen Position.blind) =
        (memory' ++ [next'.value]).map (MemoryBlock.seen Position.blind) := by
      rw [List.map_append, List.map_append, memories]
      exact congrArg (_ ++ [·]) nexts.value
    exact congrArg₂ (Bot.mk name kind description · tools · .start) more handling
  · refine (tools_abreast _ _ sources).bind fun next next' nexts => .ok ⟨?_, nexts.rest⟩
    change Bot.mk name kind description (memory.map _) (tools ++ next.value)
      (handlers.map _) .start = _
    rw [nexts.value, memories, handling]
    rfl

theorem declarations_alike {bot other : Bot} (look : BotUnplaced bot other) {name name' : Token}
    (names : name.Alike name') {source source' : Source n} (sources : source.Alike source') :
    EndAlike (Parsed.Alike BotUnplaced) (declarations bot name source)
      (declarations other name' source') := by
  rw [declarations, declarations, look.owner]
  rcases next?_alike sources with ⟨ended, ended'⟩ | ⟨word, word', taken, taken', words⟩
  · rw [ended, ended']
    exact want_alike _ sources
  · rw [taken, taken']
    refine .ite (by rw [words.value.test (·.isKeyword "end") fun _ _ _ _ => rfl]) ?_ ?_
    · exact .ite (by rw [look.handlers_isEmpty]) (.error (.complaint (.some names)))
        (.ok ⟨look, words.rest⟩)
    · rw [declarationProblem?_same look words.value]
      split
      · exact complain_alike _ sources
      · refine (declaration_abreast look words.value _ _ words.rest).bind fun next next' nexts => ?_
        refine (declarations_alike nexts.value names nexts.rest).bind fun all all' alls => ?_
        exact .ok ⟨alls.value, alls.rest⟩
termination_by source.tokens.length
decreasing_by exact (word.andThen next).shorter

theorem bot_abreast (kind : BotKind) :
    Abreast BotUnplaced (bot kind p : Reading n Bot) (bot kind q) := by
  intro source source' sources
  refine (token_abreast (fun _ _ _ _ => rfl) _ _ _ sources).bind fun name name' names => ?_
  have start : BotUnplaced ⟨name.value.text, kind, none, [], [], [], p⟩
      ⟨name'.value.text, kind, none, [], [], [], q⟩ := by
    rw [names.value.text]
    rfl
  refine (declarations_alike start names.value names.rest).bind fun all all' alls => ?_
  exact .ok ⟨alls.value, alls.rest⟩

/-- Bots that differ in positions alone, one after the other. -/
def BotsUnplaced (bots others : List Bot) : Prop :=
  bots.map (Bot.seen Position.blind) = others.map (Bot.seen Position.blind)

theorem BotsUnplaced.any_name {bots others : List Bot} (look : BotsUnplaced bots others)
    (name : String) :
    bots.any (·.name = name) = others.any (·.name = name) := by
  have same := congrArg (List.any · (·.name = name)) look
  rwa [List.any_map, List.any_map] at same

theorem bots_alike {before before' : List Bot} (look : BotsUnplaced before before')
    {source source' : Source n} (sources : source.Alike source') :
    EndAlike BotsUnplaced (bots before source) (bots before' source') := by
  rw [bots, bots]
  rcases next?_alike sources with ⟨ended, ended'⟩ | ⟨word, word', taken, taken', words⟩
  · rw [ended, ended']
    have empty : before.isEmpty = before'.isEmpty := by simpa using congrArg List.isEmpty look
    exact .ite (by rw [empty]) (want_alike _ sources) (.ok look)
  · rw [taken, taken']
    dsimp only
    rw [words.value.test botKind? fun _ _ _ _ => rfl]
    split
    · exact want_alike _ sources
    · refine (bot_abreast _ _ _ words.rest).bind fun next next' nexts => ?_
      rw [nexts.value.name]
      refine .ite (by rw [look.any_name]) (complain_alike _ sources) (bots_alike ?_ nexts.rest)
      unfold BotsUnplaced at look ⊢
      rw [List.map_append, List.map_append, look]
      exact congrArg (_ ++ [·]) nexts.value
termination_by source.tokens.length
decreasing_by exact (word.andThen next).shorter

/-- Tokens of the same kinds and texts are programs that differ in positions alone, or they are
refused with the same complaint. -/
theorem program_alike {tokens tokens' : List Token}
    (same : List.Forall₂ Token.Alike tokens tokens') :
    EndAlike (fun program other => program.unplaced = other.unplaced) (program tokens)
      (program tokens') := by
  have bots {m : Nat} (few : tokens'.length < m) (bound : tokens.length + 1 = m) :
      EndAlike BotsUnplaced (bots [] (.all tokens)) (bots [] ⟨tokens', few⟩) := by
    subst bound
    exact bots_alike rfl same
  exact (bots (Nat.lt_succ_self _) (congrArg Nat.succ same.length_eq)).bind fun _ _ look =>
    .ok (congrArg Program.mk look)

end Reading

end BotScript
