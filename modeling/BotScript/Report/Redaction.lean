import BotScript.Datum.Inspect
import BotScript.Settings

/-!
What traces and logs do not show: the texts of prompts and messages, and the values under sensitive
names. Both can be switched off.
-/

namespace BotScript

/-- What is hidden. -/
structure Redaction where
  prompts : Bool
  sensitive : Bool

namespace Redaction

/-- What stands in place of something hidden. -/
def mark : String := "[REDACTED]"

/-- What is hidden under some environment variables; by default, everything. -/
def ofVariables (vars : Variables) : Redaction where
  prompts := Settings.flag vars "HIVELANG_LOG_REDACT_PROMPTS" true
  sensitive := Settings.flag vars "HIVELANG_LOG_REDACT_METADATA" true

/-- Names whose values are sensitive, in lower case. -/
def sensitiveNames : List String :=
  ["email", "to", "phone", "authorization", "access_token", "api_key", "apikey", "password",
    "secret", "token"]

def isSensitive (name : String) : Bool :=
  sensitiveNames.contains (Text.lower name)

/-- Fields of an event that hold a text people wrote. -/
def promptFields : List String :=
  ["prompt", "content", "message", "input", "text", "value"]

/-- Fields of an event that hold named values. -/
def nestedFields : List String :=
  ["args", "metadata"]

/-- A text that people wrote; the empty text hides nothing. -/
def text (redaction : Redaction) (s : String) : String :=
  if redaction.prompts && s ≠ "" then mark else s

/-- Host data in place of a text that people wrote; data that counts as missing hides nothing. -/
def prompt (redaction : Redaction) (datum : Datum) : Datum :=
  if redaction.prompts && !datum.isVoid then .text mark else datum

/-- The value that is shown under a name. -/
def entry (redaction : Redaction) (name : String) (value : Value) : Value :=
  if redaction.sensitive && isSensitive name then .text mark else value

/-- Named values as they are shown. -/
def entries (redaction : Redaction) (values : List (String × Value)) : List (String × Value) :=
  values.map fun pair => (pair.1, redaction.entry pair.1 pair.2)

/-- The field of an event as it is shown. -/
def field (redaction : Redaction) (name : String) (value : Value) : Value :=
  match value with
  | .text s => if promptFields.contains name then .text (redaction.text s) else value
  | .object values =>
    if nestedFields.contains name then .object (redaction.entries values) else value
  | _ => value

/-- An event as it is shown. -/
def event (redaction : Redaction) (fields : List (String × Value)) : List (String × Value) :=
  fields.map fun pair => (pair.1, redaction.field pair.1 pair.2)

/-- Host data under names as it is shown. -/
def mapping (redaction : Redaction) (entries : List (Datum.Key × Datum)) :
    List (Datum.Key × Datum) :=
  entries.map fun pair =>
    (pair.1, if redaction.sensitive && isSensitive pair.1.shown then .text mark else pair.2)

/-- An event made of host data as it is shown. -/
def hostEvent (redaction : Redaction) (fields : List (Datum.Key × Datum)) :
    List (Datum.Key × Datum) :=
  fields.map fun pair =>
    match pair with
    | (.text name, .text s) =>
      (.text name, .text (if promptFields.contains name then redaction.text s else s))
    | (.text name, .mapping entries) =>
      (.text name,
        .mapping (if nestedFields.contains name then redaction.mapping entries else entries))
    | other => other

/-- Host data in the place of a mapping as it is shown. Where sensitive values are hidden it has to
be a mapping. -/
def mapping? (redaction : Redaction) (datum : Datum) : Except Datum.Refusal Datum :=
  match datum with
  | .mapping entries => .ok (.mapping (redaction.mapping entries))
  | other =>
    if redaction.sensitive then .error (.unable other.typeName "items")
    else (other.entriesOrPairs?.mapError .unpaired).map .mapping

/-- Host data in the place of an event as it is shown. -/
def hostEvent? (redaction : Redaction) (datum : Datum) : Except Datum.Refusal Datum :=
  (datum.entriesOrPairs?.mapError .unpaired).map fun fields => .mapping (redaction.hostEvent fields)

end Redaction

end BotScript
