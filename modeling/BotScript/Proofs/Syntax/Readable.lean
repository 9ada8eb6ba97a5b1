import BotScript.Proofs.Evaluation.Readable
import BotScript.Proofs.Syntax.Digits
import BotScript.Proofs.Syntax.Programs

/-! How the names in an expression are spelled. They are parts of tokens, so what the tokens of
every text give to their names is true of all names in expressions, also of those in the holes of
texts: where the digits of a source can be converted, all fields of its expressions can be read. -/

namespace BotScript

open Number

/-! ## Fields -/

/-- A field that is cut out of a text can be read when the digits of the text can be converted. -/
theorem Value.fieldReads_of_counted {before : Nat} {chars : List Char}
    (counted : Counted before chars) :
    FieldReads (String.ofList chars) := by
  intro index
  obtain ⟨visible, digits⟩ := Bool.and_eq_true_iff.mp index
  rw [String.toList_ofList] at digits ⊢
  have present : chars ≠ [] := by
    rintro rfl
    cases visible
  obtain ⟨decimal, few⟩ := counted.digits (List.all_eq_true.mp digits) present
  exact readInt_of_digits (.inl rfl) ⟨present, decimal⟩ (Nat.le_trans (Nat.le_add_left _ _) few)

namespace Reading

theorem splitDots_first (chars : List Char) : (splitDots chars).1 <+: chars := by
  induction chars with
  | nil => exact List.prefix_rfl
  | cons c rest ih =>
    rw [splitDots]
    split
    · exact List.nil_prefix
    · exact (List.prefix_cons_inj c).mpr ih

/-- The parts of a dotted name stand in it. -/
theorem splitDots_others {chars part : List Char} (member : part ∈ (splitDots chars).2) :
    part <:+: chars := by
  induction chars with
  | nil => cases member
  | cons c rest ih =>
    have behind : rest <:+: c :: rest := (List.suffix_cons c rest).isInfix
    rw [splitDots] at member
    split at member
    · rcases List.mem_cons.mp member with rfl | later
      · exact (splitDots_first rest).isInfix.trans behind
      · exact (ih later).trans behind
    · exact (ih member).trans behind

variable {named field : String → Prop}

/-- A reference is spelled as its first part is, and as the parts behind its dots are. -/
theorem referenceOf_spelled {t : Token} (first : named (String.ofList (splitDots t.text.toList).1))
    (others : ∀ part ∈ (splitDots t.text.toList).2, field (String.ofList part)) :
    (referenceOf t).Spelled named field := by
  unfold referenceOf
  dsimp only
  split
  · exact .reference _ first
  · refine .property (.reference _ first) fun name member => ?_
    obtain ⟨part, listed, rfl⟩ := List.mem_map.mp member
    exact others part listed

theorem coalesceAll_spelled {parts : List Expr} (all : ∀ part ∈ parts, part.Spelled named field)
    (p : Position) :
    (coalesceAll parts p).Spelled named field := by
  have folded (others : List Expr) (first : Expr) (spelled : first.Spelled named field)
      (more : ∀ part ∈ others, part.Spelled named field) :
      (others.foldl (fun left right => .coalesce left right p) first).Spelled named field := by
    induction others generalizing first with
    | nil => exact spelled
    | cons next others ih =>
      exact ih _ (.coalesce spelled (more next List.mem_cons_self)) fun part member =>
        more part (List.mem_cons_of_mem _ member)
  cases parts with
  | nil => exact .literal _ trivial
  | cons first others =>
    exact folded others first (all first List.mem_cons_self) fun part member =>
      all part (List.mem_cons_of_mem _ member)

theorem numberOf_flat {t : Token} {value : Value} (reads : numberOf t = .ok value) :
    value.IsFlat := by
  unfold numberOf at reads
  repeat' split at reads
  all_goals cases reads
  all_goals trivial

theorem compare_spelled {sign : Token} {left right : Expr} (first : left.Spelled named field)
    (second : right.Spelled named field) (p : Position) :
    (compare sign left right p).Spelled named field := by
  unfold compare
  split
  · exact .contains first second
  · exact .equals first second

end Reading

namespace Grammar

open Reading (isReference referenceOf)

variable {template : Templates} {ts rest : List Token} {e : Expr} {named field : String → Prop}

theorem Expression.suffix {level : Level} (derived : Expression template level ts e rest) :
    rest <:+ ts := by
  obtain ⟨front, same, -⟩ := derived.frame
  exact ⟨front, same.symm⟩

theorem Fields.suffix {fields : List (String × Expr)} (derived : Fields template ts fields rest) :
    rest <:+ ts := by
  obtain ⟨front, same, -⟩ := derived.frame
  exact ⟨front, same.symm⟩

/-- What a level makes of some parts is spelled as the parts are. -/
theorem Level.join_spelled {level : Level} {joint : Joint} (links : level.joint? = some joint)
    {parts : List Expr} (all : ∀ part ∈ parts, part.Spelled named field) (p : Position) :
    (joint.join parts p).Spelled named field := by
  cases level with
  | or | and =>
    obtain rfl := Option.some.inj links
    exact .junction all
  | concat =>
    obtain rfl := Option.some.inj links
    exact .concat all
  | coalesce =>
    obtain rfl := Option.some.inj links
    exact Reading.coalesceAll_spelled all p
  | not | comparison | operand => cases links

/-- Whatever a token stands for is spelled with names and fields of some sorts. -/
structure Plain (named field : String → Prop) (template : Templates) (t : Token) : Prop where
  text : ∀ e, template t = .ok e → e.Spelled named field
  name : isReference t → (referenceOf t).Spelled named field

theorem Plain.behind {t : Token} (plain : ∀ other ∈ ts, Plain named field template other)
    (suffix : t :: rest <:+ ts) :
    ∀ other ∈ rest, Plain named field template other :=
  fun other member => plain other (suffix.subset (List.mem_cons_of_mem t member))

mutual

/-- Expressions are spelled as their tokens are. -/
theorem Expression.spelled {level : Level} {ts rest : List Token} {e : Expr}
    (derived : Expression template level ts e rest)
    (plain : ∀ t ∈ ts, Plain named field template t) :
    e.Spelled named field := by
  match derived with
  | .tighter _ inner => exact inner.spelled plain
  | .joined _ links all _ => exact Level.join_spelled links (all.spelled plain) _
  | .negation _ inner =>
    exact .negation (inner.spelled fun t member => plain t (List.mem_cons_of_mem _ member))
  | .comparison _ first second =>
    exact Reading.compare_spelled (first.spelled plain)
      (second.spelled (.behind plain first.suffix)) _
  | .string _ stands => exact (plain _ List.mem_cons_self).text _ stands
  | .number _ reads => exact .literal _ (Reading.numberOf_flat reads)
  | .truth _ => exact .literal _ trivial
  | .null _ => exact .literal _ trivial
  | .reference names _ => exact (plain _ List.mem_cons_self).name names
  | .list _ all => exact .list (all.spelled fun t member => plain t (List.mem_cons_of_mem _ member))
  | .object _ all _ =>
    exact .object (all.spelled fun t member => plain t (List.mem_cons_of_mem _ member))
  | .group _ inner _ => exact inner.spelled fun t member => plain t (List.mem_cons_of_mem _ member)

theorem Parts.spelled {level : Level} {joint : Joint} {ts rest : List Token} {es : List Expr}
    (derived : Parts template level joint ts es rest)
    (plain : ∀ t ∈ ts, Plain named field template t) :
    ∀ e ∈ es, e.Spelled named field := by
  match derived with
  | .last only => exact List.forall_mem_singleton.mpr (only.spelled plain)
  | .more first _ others =>
    exact List.forall_mem_cons.mpr ⟨first.spelled plain,
      others.spelled (.behind plain first.suffix)⟩

theorem Items.spelled {ts rest : List Token} {es : List Expr} (derived : Items template ts es rest)
    (plain : ∀ t ∈ ts, Plain named field template t) : ∀ e ∈ es, e.Spelled named field := by
  match derived with
  | .close _ => exact nofun
  | .last only _ => exact List.forall_mem_singleton.mpr (only.spelled plain)
  | .more first _ others =>
    exact List.forall_mem_cons.mpr ⟨first.spelled plain,
      others.spelled (.behind plain first.suffix)⟩

theorem Fields.spelled {ts rest : List Token} {fields : List (String × Expr)}
    (derived : Fields template ts fields rest) (plain : ∀ t ∈ ts, Plain named field template t) :
    ∀ entry ∈ fields, entry.2.Spelled named field := by
  match derived with
  | .close _ => exact nofun
  | .last _ _ only _ =>
    exact List.forall_mem_singleton.mpr
      (only.spelled (.behind (.behind plain List.suffix_rfl) List.suffix_rfl))
  | .more _ _ first _ others =>
    have value := Plain.behind (.behind plain List.suffix_rfl) List.suffix_rfl
    exact List.forall_mem_cons.mpr ⟨first.spelled value,
      others.spelled (.behind value first.suffix)⟩

end

end Grammar

/-! ## Texts with holes -/

namespace Expr

theorem mem_relocateSegments {p : Position} {e : Expr} {segments : List Segment}
    (member : .hole e ∈ relocateSegments p segments) :
    ∃ inner, .hole inner ∈ segments ∧ e = relocate p inner := by
  induction segments with
  | nil => cases member
  | cons segment rest ih =>
    have later (behind : .hole e ∈ relocateSegments p rest) :
        ∃ inner, .hole inner ∈ segment :: rest ∧ e = relocate p inner := by
      obtain ⟨inner, listed, same⟩ := ih behind
      exact ⟨inner, List.mem_cons_of_mem _ listed, same⟩
    cases segment with
    | text s =>
      rw [relocateSegments] at member
      rcases List.mem_cons.mp member with impossible | behind
      · cases impossible
      · exact later behind
    | hole inner =>
      rw [relocateSegments] at member
      rcases List.mem_cons.mp member with same | behind
      · exact ⟨inner, List.mem_cons_self, Segment.hole.inj same⟩
      · exact later behind

/-- Positions have no part in how names are spelled. -/
theorem Spelled.relocate {named field : String → Prop} {e : Expr} (spelled : e.Spelled named field)
    (p : Position) :
    (e.relocate p).Spelled named field := by
  induction spelled with
  | literal _ flat =>
    rw [Expr.relocate]
    exact .literal p flat
  | list _ ih =>
    rw [Expr.relocate, relocateAll_eq_map]
    exact .list (List.forall_mem_map.mpr ih)
  | object _ ih =>
    rw [Expr.relocate, relocateEntries_eq_map]
    exact .object (List.forall_mem_map.mpr ih)
  | reference _ plain =>
    rw [Expr.relocate]
    exact .reference p plain
  | property _ fields ih =>
    rw [Expr.relocate]
    exact .property ih fields
  | template _ ih =>
    rw [Expr.relocate]
    refine .template fun e member => ?_
    obtain ⟨inner, listed, rfl⟩ := mem_relocateSegments member
    exact ih inner listed
  | contains _ _ left right =>
    rw [Expr.relocate]
    exact .contains left right
  | junction _ ih =>
    rw [Expr.relocate, relocateAll_eq_map]
    exact .junction (List.forall_mem_map.mpr ih)
  | negation _ ih =>
    rw [Expr.relocate]
    exact .negation ih
  | equals _ _ left right =>
    rw [Expr.relocate]
    exact .equals left right
  | concat _ ih =>
    rw [Expr.relocate, relocateAll_eq_map]
    exact .concat (List.forall_mem_map.mpr ih)
  | coalesce _ _ left right =>
    rw [Expr.relocate]
    exact .coalesce left right

end Expr

namespace Reading

open Grammar

/-- The expressions in the segments of a text are those of its holes. -/
theorem segments_holes {hole : List Char → Except Failure Expr} {parts : List Template.Part}
    {all : List Segment} (read : segments hole parts = .ok all) {e : Expr}
    (member : .hole e ∈ all) :
    ∃ chars, .hole chars ∈ parts ∧ hole chars = .ok e := by
  induction parts generalizing all with
  | nil =>
    obtain rfl := Except.ok.inj read
    cases member
  | cons part parts ih =>
    have later {others : List Segment} (behind : segments hole parts = .ok others)
        (listed : .hole e ∈ others) :
        ∃ chars, .hole chars ∈ part :: parts ∧ hole chars = .ok e := by
      obtain ⟨chars, known, inner⟩ := ih behind listed
      exact ⟨chars, List.mem_cons_of_mem _ known, inner⟩
    cases part with
    | text chars =>
      rw [segments] at read
      cases others : segments hole parts with
      | error failure => simp [others, bind, Except.bind] at read
      | ok rest =>
        rw [others] at read
        obtain rfl := Except.ok.inj read
        rcases List.mem_cons.mp member with impossible | behind
        · cases impossible
        · exact later others behind
    | hole chars =>
      rw [segments] at read
      cases inner : hole chars with
      | error failure => simp [inner, bind, Except.bind] at read
      | ok first =>
        cases others : segments hole parts with
        | error failure => simp [inner, others, bind, Except.bind] at read
        | ok rest =>
          rw [inner, others] at read
          obtain rfl := Except.ok.inj read
          rcases List.mem_cons.mp member with same | behind
          · obtain rfl := Segment.hole.inj same
            exact ⟨chars, List.mem_cons_self, inner⟩
          · exact later others behind

variable {named field : String → Prop}

/-- A text is spelled as its holes are. -/
theorem templateWith_spelled {hole : List Char → Except Failure Expr} {t : Token} {e : Expr}
    (read : templateWith hole t = .ok e)
    (holes : ∀ chars inner, .hole chars ∈ (Template.cut t.text.toList).parts →
      hole chars = .ok inner →
      inner.Spelled named field) : e.Spelled named field := by
  unfold templateWith at read
  dsimp only at read
  cases whole : segments hole (Template.cut t.text.toList).parts with
  | error failure =>
    rw [whole] at read
    cases read
  | ok all =>
    rw [whole] at read
    simp only [bind, Except.bind] at read
    split at read
    · cases read
    · split at read
      · obtain rfl := Except.ok.inj read
        exact .literal _ trivial
      · obtain rfl := Except.ok.inj read
        exact .literal _ trivial
      · obtain rfl := Except.ok.inj read
        refine .template fun inner member => ?_
        obtain ⟨chars, part, given⟩ := segments_holes whole member
        exact holes chars inner part given

/-- What stands in a hole is an expression. -/
theorem hole_derives {template : Templates} (complaining : Complaining template) {t : Token}
    {chars : List Char} {e : Expr} (read : hole template t chars = .ok e) :
    ∃ stream inner, Lexer.scan .start chars = .ok stream ∧
      Expression template .or stream.tokens inner [] ∧
      e = inner.relocate t.position := by
  unfold hole at read
  dsimp only at read
  split at read
  · cases read
  · rename_i stream scanned
    have decided := expression_decides complaining (.all stream.tokens)
    split at read
    · cases read
    · cases read
    · rename_i parsed whole
      rw [whole] at decided
      split at read
      · rename_i nothing
        obtain rfl := Except.ok.inj read
        refine ⟨stream, parsed.value, scanned, ?_, rfl⟩
        have derived := decided.2.1.1
        rw [Parsed.seen, nothing] at derived
        exact derived
      · cases read

/-- Something sound about a text is sound about its tokens and holes too, and the names and fields
that the tokens of such a text name are of some sorts. -/
structure Spelling (named field : String → Prop) (sound : List Char → Prop) : Prop where
  hole : ∀ text chars, sound text → .hole chars ∈ (Template.cut text).parts → sound chars
  token : ∀ p source stream, sound source → Lexer.scan p source = .ok stream →
      ∀ t ∈ stream.tokens, sound t.text.toList
  name : ∀ p source stream, sound source → Lexer.scan p source = .ok stream →
      ∀ t ∈ stream.tokens, isReference t →
    (referenceOf t).Spelled named field
  binding : ∀ p source stream, sound source → Lexer.scan p source = .ok stream →
      ∀ t ∈ stream.tokens, isBinding t →
    named t.text
  result : named Stmt.resultName

section

variable {sound : List Char → Prop} (spelling : Spelling named field sound)

include spelling

theorem Spelling.templateWithin (depth : Nat) {t : Token} {e : Expr} (text : sound t.text.toList)
    (read : templateWithin depth t = .ok e) : e.Spelled named field := by
  induction depth generalizing t e with
  | zero => exact templateWith_spelled read fun _ _ _ impossible => nomatch impossible
  | succ depth ih =>
    refine templateWith_spelled read fun chars inner part given => ?_
    obtain ⟨stream, outer, scanned, derived, rfl⟩ :=
      hole_derives (complaining_templateWithin depth) given
    have inside := spelling.hole _ chars text part
    refine (derived.spelled fun other member => ⟨fun e read => ?_, ?_⟩).relocate _
    · exact ih (spelling.token _ _ _ inside scanned other member) read
    · exact spelling.name _ _ _ inside scanned other member

/-- Whatever the tokens of a sound source stand for is spelled with names and fields of the right
sorts. -/
theorem Spelling.plain {source : List Char} {p : Position} {stream : TokenStream}
    (whole : sound source) (scanned : Lexer.scan p source = .ok stream) :
    ∀ t ∈ stream.tokens, Plain named field template t := by
  intro t member
  refine ⟨fun e read => ?_, spelling.name _ _ _ whole scanned t member⟩
  exact spelling.templateWithin _ (spelling.token _ _ _ whole scanned t member) read

end

/-- Where the digits of a source can be converted, its expressions are readable. -/
theorem spelling_counted : Spelling (fun _ => True) Value.FieldReads (Counted 0) where
  hole _ _ counted part := Template.hole_counted part counted
  token _ _ _ counted scanned t member := (Lexer.scan_taken scanned t member).counted counted
  name _ _ _ counted scanned t member _ := by
    have text := (Lexer.scan_taken scanned t member).counted counted
    exact referenceOf_spelled trivial fun part listed =>
      Value.fieldReads_of_counted (text.part (splitDots_others listed))
  binding _ _ _ _ _ _ _ _ := trivial
  result := trivial

end Reading

end BotScript
