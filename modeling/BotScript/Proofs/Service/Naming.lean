import BotScript.Proofs.Alike.Execution
import BotScript.Service.Answer

/-! What the name of a run does in the service's answer: it stands in one field of the answer, and
nothing else depends on it. -/

namespace BotScript

namespace Value

theorem sendableEntries_append (front back : List (String × Value)) :
    sendableEntries (front ++ back) = sendableEntries front ++ sendableEntries back := by
  induction front with
  | nil => rfl
  | cons entry rest ih =>
    obtain ⟨key, value⟩ := entry
    exact congrArg ((key, value.sendable) :: ·) ih

theorem entryAtoms_append (front back : List (String × Value)) :
    entryAtoms (front ++ back) = entryAtoms front ++ entryAtoms back := by
  induction front with
  | nil => rfl
  | cons entry rest ih =>
    obtain ⟨key, value⟩ := entry
    change text key :: (atoms value ++ entryAtoms (rest ++ back)) =
      text key :: (atoms value ++ entryAtoms rest) ++ _
    rw [ih, List.cons_append, List.append_assoc]

/-- A field of an answer, without the name of a run that it may hold. -/
def unnamedField (field : String × Value) : String × Value :=
  (field.1, if field.1 = "run_id" then null else field.2)

/-- An answer without the name of its run. -/
def unnamed : Value → Value
  | object fields => object (fields.map unnamedField)
  | other => other

/-- A text with bytes does not keep an answer from being sent. -/
private theorem refusal?_beside (front back : List Value) {name : String}
    (bytes : Text.Utf8.refusal? name.toList = none) :
    (front ++ text name :: back).findSome? refusal? = (front ++ back).findSome? refusal? := by
  rw [List.findSome?_append, List.findSome?_append, List.findSome?_cons]
  have silent : (text name).refusal? = none := bytes
  rw [silent]

end Value

namespace Reply

/-- A reply without the name of its run. -/
def unnamed (reply : Reply) : Reply :=
  ⟨reply.status, reply.body.unnamed⟩

/-- A positive reply is sent unless one of its texts has no bytes. -/
theorem sent_ok (value : Value) :
    (Reply.ok value).sent =
      match value.sendable.atoms.findSome? Value.refusal? with
      | some reason => .error (.answer reason)
      | none => .ok (.ok value) :=
  rfl

section

variable (front back : List (String × Value)) (name : String)

/-- An answer that names a run between other fields. -/
private def named : Value :=
  .object (front ++ ("run_id", .text name) :: back)

private theorem named_refusal? (bytes : Text.Utf8.refusal? name.toList = none) :
    (named front back name).sendable.atoms.findSome? Value.refusal? =
      (Value.entryAtoms (Value.sendableEntries front) ++
        .text "run_id" :: Value.entryAtoms (Value.sendableEntries back)).findSome?
          Value.refusal? := by
  change (Value.entryAtoms (Value.sendableEntries (front ++ _))).findSome? Value.refusal? = _
  rw [Value.sendableEntries_append, Value.entryAtoms_append]
  change (_ ++ ([Value.text "run_id"] ++ Value.text name :: _)).findSome? Value.refusal? = _
  rw [← List.append_assoc, Value.refusal?_beside _ _ bytes, List.append_assoc]
  rfl

private theorem named_unnamed :
    unnamed (.ok (named front back name)) =
      ⟨200, .object ((Value.sendableEntries front).map Value.unnamedField ++
        ("run_id", .null) :: (Value.sendableEntries back).map Value.unnamedField)⟩ := by
  change (⟨200, .object ((Value.sendableEntries (front ++ _)).map Value.unnamedField)⟩ : Reply) = _
  rw [Value.sendableEntries_append, List.map_append]
  rfl

end

/-- Under which name an answer tells of its run makes no further difference to the reply, as long as
the name has bytes. -/
theorem sent_renamed (result : RunResult) (timed : Bool) {name : String}
    (bytes : Text.Utf8.refusal? result.runId.toList = none)
    (bytes' : Text.Utf8.refusal? name.toList = none) :
    (Reply.ok (result.data timed)).sent.map unnamed =
      (Reply.ok (({ result with runId := name }).data timed)).sent.map unnamed := by
  obtain ⟨front, back, own, other⟩ : ∃ front back,
      result.data timed = named front back result.runId ∧
      ({ result with runId := name }).data timed = named front back name :=
    ⟨[_, _, _, _, _, _, _, _, _], _, rfl, rfl⟩
  rw [own, other, sent_ok, sent_ok, named_refusal? _ _ _ bytes, named_refusal? _ _ _ bytes']
  split
  · rfl
  · exact congrArg Except.ok ((named_unnamed _ _ _).trans (named_unnamed _ _ _).symm)

end Reply

end BotScript
