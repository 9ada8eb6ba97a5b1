import BotScript.Service.Address
import BotScript.Service.Body
import BotScript.Syntax.Complaint
import BotScript.Text.Utf8
import BotScript.Value.Written

/-!
What the service replies. Replies are sent as bytes, so one whose texts hold surrogates breaks down
on its way; refusals are also strict about numbers that are not finite, where other answers put
null.
-/

namespace BotScript

/-- A reply to a request. -/
structure Reply where
  status : Nat
  body : Value

namespace Value

mutual

/-- A value as it is sent: numbers that are not finite become null. -/
def sendable : Value → Value
  | number (.finite negative units) => number (.finite negative units)
  | number _ => null
  | array items => array (sendableItems items)
  | object entries => object (sendableEntries entries)
  | other => other

def sendableItems : List Value → List Value
  | [] => []
  | item :: rest => sendable item :: sendableItems rest

def sendableEntries : List (String × Value) → List (String × Value)
  | [] => []
  | (key, value) :: rest => (key, sendable value) :: sendableEntries rest

end

mutual

/-- The keys of a value and its parts that have no parts, in order. -/
def atoms : Value → List Value
  | array items => itemAtoms items
  | object entries => entryAtoms entries
  | other => [other]

def itemAtoms : List Value → List Value
  | [] => []
  | item :: rest => atoms item ++ itemAtoms rest

def entryAtoms : List (String × Value) → List Value
  | [] => []
  | (key, value) :: rest => text key :: atoms value ++ entryAtoms rest

end

/-- The value is a number that is not finite. -/
def isUnbounded : Value → Bool
  | number (.finite ..) => false
  | number _ => true
  | _ => false

/-- Why a text has no bytes. -/
def refusal? : Value → Option String
  | text s => Text.Utf8.refusal? s.toList
  | _ => none

end Value

/-- Why a request gets no reply. -/
inductive Breakdown
  | address (flaw : AddressFlaw)
  | escape (escape : Escape)
  /-- A text in an answer has no bytes. -/
  | answer (reason : String)
  /-- The text of a request or of a refusal has no bytes. -/
  | noBytes (reason : String)
  /-- A number in a refusal is not finite. -/
  | unbounded
deriving DecidableEq, Repr

def Breakdown.message : Breakdown → String
  | address flaw => flaw.message
  | escape mistake => mistake.message
  | answer reason => s!"Error serializing to JSON: UnicodeEncodeError: {reason}"
  | noBytes reason => reason
  | unbounded => "Out of range float values are not JSON compliant"

namespace Reply

def ok (value : Value) : Reply := ⟨200, value.sendable⟩

/-- A refusal with its reason. -/
def refusal (status : Nat) (detail : Value) : Reply := ⟨status, .object [("detail", detail)]⟩

def notFound : Reply := refusal 404 (.text "Not Found")

def wrongMethod : Reply := refusal 405 (.text "Method Not Allowed")

def unreadableBody : Reply := refusal 400 (.text "There was an error parsing the body")

/-- A body that has not the form of its route. -/
def badBody (problems : List BodyProblem) : Reply :=
  refusal 422 (.array (problems.map BodyProblem.data))

def unknownSession (id : String) : Reply := refusal 404 (.text s!"Unknown session '{id}'")

/-- A program text that is none. -/
def badProgram (report : SyntaxReport) : Reply :=
  refusal 400 (.object [
    ("kind", .text report.kind.name),
    ("message", .text report.message),
    ("line", .integer report.position.line),
    ("column", .integer report.position.column)])

/-- A reply that has been sent, unless it breaks down. -/
def sent (reply : Reply) : Except Breakdown Reply :=
  let atoms := reply.body.atoms
  if reply.status = 200 then
    match atoms.findSome? Value.refusal? with
    | some reason => .error (.answer reason)
    | none => .ok reply
  else if atoms.any Value.isUnbounded then .error .unbounded
  else
    match Text.Utf8.refusal? (reply.body.written .compact).toList with
    | some reason => .error (.noBytes reason)
    | none => .ok reply

end Reply

end BotScript
