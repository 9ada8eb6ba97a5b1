import BotScript.Tool.Catalogue
import Mathlib.Data.List.Basic

/-! Which tool a name finds. The last tool of that name is found, or the last one with that
capability where no tool has the name; so the names that find a tool are those that a check of the
same tools takes to be there. -/

namespace BotScript

namespace Offer

/-- The object is a tool: it has a name and can be run. -/
def IsTool (offer : Offer) : Prop :=
  ∃ name, offer.name = some name ∧ name ≠ "" ∧ offer.runnable

/-- The tool that an object is at its place in the list of a host. -/
def asTool (offer : Offer) (index : Nat) : Tool :=
  ⟨index, offer.name.getD "", offer.capability⟩

/-- The tools that a list of objects holds, from a place in it on. -/
def tools (offers : List Offer) (index : Nat) : List Tool :=
  (offers.zipIdx index).map fun place => place.1.asTool place.2

/-- The tool of the last object of which something holds. -/
def lastTool? (holds : Offer → Bool) (offers : List Offer) : Option Tool :=
  (offers.zipIdx.filter fun place => holds place.1).getLast?.map fun place => place.1.asTool place.2

theorem IsTool.tool? {offer : Offer} (isTool : offer.IsTool) (index : Nat) :
    offer.tool? index = .ok (offer.asTool index) := by
  obtain ⟨name, named, full, runnable⟩ := isTool
  simp [Offer.tool?, asTool, named, full, runnable]

theorem tools_cons (offer : Offer) (rest : List Offer) (index : Nat) :
    tools (offer :: rest) index = offer.asTool index :: tools rest (index + 1) := by
  simp [tools]

theorem toolsFrom_eq {offers : List Offer} (all : ∀ offer ∈ offers, offer.IsTool) (index : Nat) :
    toolsFrom index offers = .ok (tools offers index) := by
  induction offers generalizing index with
  | nil => rfl
  | cons offer rest ih =>
    obtain ⟨first, others⟩ := List.forall_mem_cons.mp all
    rw [toolsFrom, first.tool?, ih others, tools_cons]
    rfl

end Offer

namespace Catalogue

/-- The capability under which a tool is entered. -/
private theorem entered_under (tool : Tool) (name : String) :
    (byCapability? tool).filter (·.1 = name) =
      if name ≠ "" ∧ tool.capability = some name then some (name, tool) else none := by
  unfold byCapability?
  cases tool.capability with
  | none => simp
  | some capability =>
    by_cases empty : capability = ""
    · by_cases same : capability = name <;> simp_all
    · by_cases same : capability = name <;> simp_all

/-- Of the tools with a capability the last one is entered under it. -/
private theorem last_capability (tools : List Tool) (name : String) :
    ((tools.filterMap byCapability?).filter (·.1 = name)).getLast?.map Prod.snd =
      (tools.filter fun tool => name ≠ "" ∧ tool.capability = some name).getLast? := by
  have entered : (tools.filterMap byCapability?).filter (·.1 = name) =
      (tools.filter fun tool => name ≠ "" ∧ tool.capability = some name).map fun tool =>
      (name, tool) := by
    rw [List.filter_filterMap, ← List.filterMap_eq_map, List.filterMap_filter]
    refine List.filterMap_congr fun tool _ => ?_
    rw [entered_under]
    simp
  rw [entered, List.getLast?_map, Option.map_map]
  exact Option.map_id'

private theorem last_name (tools : List Tool) (name : String) :
    ((tools.map fun tool => (tool.name, tool)).filter (·.1 = name)).getLast?.map Prod.snd =
      (tools.filter (·.name = name)).getLast? := by
  rw [List.filter_map, List.getLast?_map, Option.map_map]
  exact Option.map_id'

theorem get?_ofTools (tools : List Tool) (name : String) :
    (ofTools tools).get? name = (tools.filter (·.name = name)).getLast?.or
      (tools.filter fun tool => name ≠ "" ∧ tool.capability = some name).getLast? := by
  rw [get?, ofTools, Entries.get?_ofList, List.filter_append, List.getLast?_append,
    ← last_capability, ← last_name, Option.map_or]

/-- The last tool of a list for which something holds is that of the last object for which it
holds. -/
private theorem last_tools {holds : Offer → Bool} {fits : Tool → Bool} {offers : List Offer}
    (same : ∀ offer ∈ offers, ∀ index, fits (offer.asTool index) = holds offer) :
    ((Offer.tools offers 0).filter fits).getLast? = Offer.lastTool? holds offers := by
  unfold Offer.tools Offer.lastTool?
  rw [List.filter_map, List.getLast?_map]
  congr 2
  refine List.filter_congr fun place member => ?_
  exact same place.1 (List.fst_mem_of_mem_zipIdx member) place.2

/-- Objects that are tools make a catalogue. A name finds in it the last tool of that name, or the
last one with that capability where no tool has the name; an empty capability is none. -/
theorem ofOffers_finds {offers : List Offer} (all : ∀ offer ∈ offers, offer.IsTool) :
    ∃ catalogue, ofOffers offers = .ok catalogue ∧ ∀ name, catalogue.get? name =
      (Offer.lastTool? (·.name = some name) offers).or
        (Offer.lastTool? (fun offer => name ≠ "" ∧ offer.capability = some name) offers) := by
  refine ⟨ofTools (Offer.tools offers 0), ?_, fun name => ?_⟩
  · rw [ofOffers, Offer.toolsFrom_eq all]
    rfl
  · rw [get?_ofTools, last_tools, last_tools]
    · intro offer _ index
      rfl
    · intro offer member index
      obtain ⟨given, named, -⟩ := all offer member
      simp [Offer.asTool, named]

/-- A tool with an empty capability is not found under it. -/
theorem emptyCapability_unfound :
    ¬∀ offers, (∀ offer ∈ offers, offer.IsTool) →
      ∀ catalogue, ofOffers offers = .ok catalogue → ∀ name,
      catalogue.get? name = (Offer.lastTool? (·.name = some name) offers).or
        (Offer.lastTool? (·.capability = some name) offers) := by
  intro claim
  have tool : ∀ offer ∈ [Offer.ofRecord "a" "" ""], offer.IsTool :=
    List.forall_mem_singleton.mpr ⟨"a", rfl, by decide, rfl⟩
  have found := claim _ tool _ rfl ""
  revert found
  decide

end Catalogue

namespace Offer

theorem lastTool?_isSome {holds : Offer → Bool} {offers : List Offer} :
    (lastTool? holds offers).isSome ↔ ∃ offer ∈ offers, holds offer := by
  unfold lastTool?
  rw [Option.isSome_map, Option.isSome_iff_ne_none, ne_eq, List.getLast?_eq_none_iff]
  constructor
  · intro found
    obtain ⟨place, member⟩ := List.exists_mem_of_ne_nil _ found
    obtain ⟨listed, fits⟩ := List.mem_filter.mp member
    exact ⟨place.1, List.fst_mem_of_mem_zipIdx listed, fits⟩
  · rintro ⟨offer, member, fits⟩
    obtain ⟨index, inside, rfl⟩ := List.mem_iff_getElem.mp member
    have listed : (offers[index], index) ∈ offers.zipIdx :=
      List.mem_zipIdx_iff_getElem?.mpr (List.getElem?_eq_getElem inside)
    exact List.ne_nil_of_mem (List.mem_filter.mpr ⟨listed, fits⟩)

theorem IsTool.mem_names {offer : Offer} (isTool : offer.IsTool) (object : offer.text = none)
    {name : String} :
    name ∈ offer.names ↔ offer.name = some name ∨ name ≠ "" ∧ offer.capability = some name := by
  obtain ⟨own, named, full, -⟩ := isTool
  have listed : name ∈ offer.names ↔ (offer.name = some name ∨ offer.capability = some name) ∧
      name ≠ "" := by
    simp [names, object, or_and_right]
  rw [listed]
  constructor
  · rintro ⟨has | has, given⟩
    · exact .inl has
    · exact .inr ⟨given, has⟩
  · rintro (has | ⟨given, has⟩)
    · obtain rfl := Option.some.inj (named.symm.trans has)
      exact ⟨.inl has, full⟩
    · exact ⟨.inr has, given⟩

end Offer

/-- Without texts among the tools the names that find one are those under which a check knows
them. -/
theorem Catalogue.isSome_iff_mem_names {offers : List Offer} (all : ∀ offer ∈ offers, offer.IsTool)
    (objects : ∀ offer ∈ offers, offer.text = none) {catalogue : Catalogue}
    (offered : ofOffers offers = .ok catalogue) (name : String) :
    (catalogue.get? name).isSome ↔ name ∈ offers.flatMap Offer.names := by
  obtain ⟨made, same, finds⟩ := ofOffers_finds all
  obtain rfl := Except.ok.inj (same.symm.trans offered)
  rw [finds, Option.isSome_or, Bool.or_eq_true, Offer.lastTool?_isSome, Offer.lastTool?_isSome,
    List.mem_flatMap]
  constructor
  · rintro (⟨offer, member, named⟩ | ⟨offer, member, capable⟩)
    · exact ⟨offer, member, ((all offer member).mem_names (objects offer member)).mpr
        (.inl (of_decide_eq_true named))⟩
    · exact ⟨offer, member, ((all offer member).mem_names (objects offer member)).mpr
        (.inr (of_decide_eq_true capable))⟩
  · rintro ⟨offer, member, listed⟩
    obtain named | capable := ((all offer member).mem_names (objects offer member)).mp listed
    · exact .inl ⟨offer, member, decide_eq_true named⟩
    · exact .inr ⟨offer, member, decide_eq_true capable⟩

end BotScript
