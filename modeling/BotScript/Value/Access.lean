import BotScript.Fault
import BotScript.Number.Reading
import BotScript.Text.Casing
import BotScript.Value.Equality
import BotScript.Value.Shown

/-!
Reading inside values: fields, items and lengths, membership, and the boolean that a condition
needs. Each either gives a value or names the cause of the failure.
-/

namespace BotScript.Value

/-- The keys under which a message-like object may hold its text, in order of preference. -/
def messageKeys : List String :=
  ["input", "message", "task", "text", "query", "prompt"]

/-- The text under the first of some keys that holds one. -/
def firstText? (entries : List (String × Value)) : List String → Option String
  | [] => none
  | key :: rest =>
    match Entries.get? entries key with
    | some (text s) => some s
    | _ => firstText? entries rest

/-- The text of a text, or of an object that holds a message. -/
def messageText? : Value → Option String
  | text s => some s
  | object entries => firstText? entries messageKeys
  | _ => none

/-- Whether a value holds another one: a text its parts, regardless of case; an array its items; an
object the parts of its message text, or its keys when it has no message text. -/
def contains (haystack needle : Value) : Except Cause Bool :=
  match haystack with
  | array items => .ok (items.any (·.same needle))
  | object entries =>
    match messageText? (object entries) with
    | some s => .ok (Text.containsFolded s needle.shown)
    | none =>
      match needle with
      | text key => .ok (Entries.has entries key)
      | _ => .ok false
  | text s => .ok (Text.containsFolded s needle.shown)
  | other => .error (.cannotContain other.kind)

/-- The boolean that a value is; `context` says what needs it. -/
def asBoolean (value : Value) (context : String) : Except Cause Bool :=
  match value with
  | boolean b => .ok b
  | other => .error (.notBoolean context other.kind (other.describe describeLimit))

/-- The name of a field is an index: it consists of digits. -/
def isIndex (field : String) : Bool :=
  !field.isEmpty && field.toList.all Text.isDigit

/-- The field of a value; `label` names the value in messages. -/
def property (value : Value) (field label : String) : Except Trouble Value :=
  match value with
  | object entries =>
    match Entries.get? entries field with
    | some found => .ok found
    | none => .error (.cause (.missingField field (Entries.keys entries) label))
  | array items =>
    if field = "length" then .ok (integer items.length)
    else if isIndex field then
      match Number.readInt field.toList with
      | .error flaw => .error (.numeral (.ofFlaw field flaw))
      | .ok index =>
        match items[index.toNat]? with
        | some item => .ok item
        | none => .error (.cause (.indexOutOfRange index.toNat label items.length))
    else .error (.cause (.notAnObject field label .array))
  | text s =>
    if field = "length" then .ok (integer s.length)
    else .error (.cause (.notAnObject field label .string))
  | other => .error (.cause (.notAnObject field label other.kind))

end BotScript.Value
