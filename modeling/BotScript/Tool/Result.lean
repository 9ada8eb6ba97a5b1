import BotScript.Datum.Inspect
import BotScript.Host.Dialogue
import BotScript.Value.Shown

/-!
What tools answer. Whatever a tool returns is brought into one form or refused; the form is what
programs read.
-/

namespace BotScript

/-- The answer of a tool. -/
structure ToolResult where
  success : Bool
  output : String
  data : Option (List (String × Value))

namespace ToolResult

/-- The answer as data. -/
def record (result : ToolResult) : Value :=
  .object [
    ("success", .boolean result.success),
    ("output", .text result.output),
    ("data", (result.data.map .object).getD .null)]

/-- The success, output and data that a tool returned, before they are looked at. -/
def parts? : Datum → Option (Datum × Datum × Datum)
  | .result success output data => some (success, output, data)
  | .mapping entries =>
    (Datum.field? entries "success").map fun success =>
      (success, (Datum.field? entries "output").getD (.text ""),
        (Datum.field? entries "data").getD .null)
  | _ => none

/-- An answer with parts of any make as a mapping, which leaves out data that is null. -/
def mapping (success output data : Datum) : Datum :=
  let more := if data matches .null then [] else [(Datum.Key.text "data", data)]
  .mapping ([(.text "success", success), (.text "output", output)] ++ more)

/-- An answer with parts of any make as a mapping that also holds the entries of its data. -/
def boundMapping? (success output data : Datum) : Except Datum.Refusal Datum := do
  let entries ← if data.isVoid then pure [] else data.entriesOrPairs?.mapError .unpaired
  return .ofPairs (entries ++ [(.text "success", success), (.text "output", output),
    (.text "data", data)])

/-- The output as text. -/
def outputText : Datum → Except Datum.Obstacle String
  | .text s => .ok s
  | other => do return (← other.convert).shown

/-- The data as an object; other data than objects is put under one key. -/
def dataObject : Datum → Except Datum.Obstacle (Option (List (String × Value)))
  | .null => .ok none
  | datum => do
    match ← datum.convert with
    | .object entries => return some entries
    | value => return some [("value", value)]

/-- The answer that a tool returned. -/
def ofDatum (tool : String) (raw : Datum) : Except HostError ToolResult :=
  match parts? raw with
  | none => .error (.runtime (.of (.malformedResult tool raw.typeName)))
  | some (.boolean success, output, data) =>
    (do return ⟨success, ← outputText output, ← dataObject data⟩ :
      Except Datum.Obstacle ToolResult).mapError
      .ofObstacle
  | some _ => .error (.runtime (.of (.successNotBoolean tool)))

/-- The data of an answer as a value. -/
def dataValue (result : ToolResult) : Value :=
  match result.data with
  | none => .null
  | some entries => .object entries

/-- An answer as programs read it: the fields of its data beside its own three, which win. -/
def value (result : ToolResult) : Value :=
  .object (Entries.putAll (result.data.getD []) [
    ("success", .boolean result.success),
    ("output", .text result.output),
    ("data", result.dataValue)])

end ToolResult

end BotScript
