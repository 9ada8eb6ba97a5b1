import BotScript.Text.Units
import BotScript.Value.Reading

/-!
The bodies of requests and the fields that are read from them. Everything that is wrong with a body
is told at once, each problem with the part of the body that it is about.
-/

namespace BotScript

/-- The body of a request. -/
inductive Body
  | absent
  /-- A text that is no written value, with the place and the reason. -/
  | malformed (offset : Nat) (reason : String)
  /-- A text that is given up while it is read. -/
  | unreadable
  /-- A text that has no bytes, with the reason. -/
  | noBytes (reason : String)
  | value (value : Value)

namespace Body

/-- The body that a text is. -/
def ofPlainText (chars : List Char) : Body :=
  match Value.read (String.ofList chars) with
  | .ok content => .value content
  | .error ⟨.tooLong _, _⟩ => unreadable
  | .error error => malformed (chars.length - error.remaining) error.problem.message

/-- The body whose bytes are those of a text. They can be units of another text; a mark of the byte
order in front is passed over. -/
def ofText (s : String) : Body :=
  match Text.Utf8.refusal? s.toList, s.toList with
  | some reason, _ => noBytes reason
  | none, [] => absent
  | none, '\ufeff' :: rest => ofPlainText rest
  | none, chars =>
    if (chars.take 2).contains '\x00' then
      match Text.Units.decode? s.toUTF8.toList with
      | some chars => ofPlainText chars
      | none => unreadable
    else ofPlainText chars

end Body

/-- What is wrong with a part of a body. -/
inductive BodyFlaw
  | missing
  | unwritten (reason : String)
  | notFields
  | notText
  | notList
  | notObject
  | notNumber
  | unreadableNumber
  | notPositive
deriving DecidableEq, Repr

namespace BodyFlaw

/-- The name of a flaw in answers. -/
def name : BodyFlaw → String
  | missing => "missing"
  | unwritten _ => "json_invalid"
  | notFields => "model_attributes_type"
  | notText => "string_type"
  | notList => "list_type"
  | notObject => "dict_type"
  | notNumber => "float_type"
  | unreadableNumber => "float_parsing"
  | notPositive => "greater_than"

def message : BodyFlaw → String
  | missing => "Field required"
  | unwritten _ => "JSON decode error"
  | notFields => "Input should be a valid dictionary or object to extract fields from"
  | notText => "Input should be a valid string"
  | notList => "Input should be a valid list"
  | notObject => "Input should be a valid dictionary"
  | notNumber => "Input should be a valid number"
  | unreadableNumber => "Input should be a valid number, unable to parse string as a number"
  | notPositive => "Input should be greater than 0"

/-- The facts behind a flaw. -/
def facts : BodyFlaw → List (String × Value)
  | unwritten reason => [("ctx", .object [("error", .text reason)])]
  | notPositive => [("ctx", .object [("gt", .number .zero)])]
  | _ => []

end BodyFlaw

/-- A problem, the way to it through the body, and what was found there. -/
structure BodyProblem where
  flaw : BodyFlaw
  way : List Value
  found : Value

/-- A problem as data. -/
def BodyProblem.data (problem : BodyProblem) : Value :=
  .object ([
    ("type", .text problem.flaw.name),
    ("loc", .array (.text "body" :: problem.way)),
    ("msg", .text problem.flaw.message),
    ("input", problem.found)] ++ problem.flaw.facts)

/-- What is read from a body, or all that is wrong with it. -/
inductive Form (α : Type)
  | read (a : α)
  | refused (problems : List BodyProblem)

namespace Form

variable {α β : Type}

instance : Functor Form where
  map f
    | read a => read (f a)
    | refused problems => refused problems

instance : Applicative Form where
  pure := read
  seq form more :=
    match form, more () with
    | read f, read a => read (f a)
    | read _, refused problems => refused problems
    | refused problems, read _ => refused problems
    | refused problems, refused others => refused (problems ++ others)

/-- One problem. -/
def flawed (flaw : BodyFlaw) (way : List Value) (found : Value) : Form α :=
  refused [⟨flaw, way, found⟩]

/-- The forms of some items, one after the other. -/
def all (form : Nat → α → Form β) : (first : Nat) → List α → Form (List β)
  | _, [] => read []
  | i, item :: rest => List.cons <$> form i item <*> all form (i + 1) rest

end Form

namespace Body

/-- What is read from the fields of a body. Null counts as no body. -/
def withFields {α : Type} (body : Body) (form : List (String × Value) → Form α) : Form α :=
  match body with
  | absent | unreadable | noBytes _ | value .null => .flawed .missing [] .null
  | malformed offset reason => .flawed (.unwritten reason) [.integer offset] (.object [])
  | value (.object fields) => form fields
  | value other => .flawed .notFields [] other

/-! ## Fields -/

/-- A text. -/
def asText (way : List Value) : Value → Form String
  | .text s => .read s
  | other => .flawed .notText way other

/-- A text that has to be there. -/
def text (fields : List (String × Value)) (name : String) : Form String :=
  match Entries.get? fields name with
  | none => .flawed .missing [.text name] (.object fields)
  | some found => asText [.text name] found

/-- A text with a default. -/
def textOr (fields : List (String × Value)) (name default : String) : Form String :=
  match Entries.get? fields name with
  | none => .read default
  | some found => asText [.text name] found

/-- What is read from a field that may be missing or null. -/
def optional {α : Type} (form : List Value → Value → Form α) (fields : List (String × Value))
    (name : String) :
    Form (Option α) :=
  match Entries.get? fields name with
  | none | some .null => .read none
  | some found => some <$> form [.text name] found

/-- A text that may be missing or null. -/
def optionalText : List (String × Value) → String → Form (Option String) :=
  optional asText

/-- Texts in a list. -/
def asTexts (way : List Value) : Value → Form (List String)
  | .array items => .all (fun i item => asText (way ++ [.integer i]) item) 0 items
  | other => .flawed .notList way other

/-- An object with a default. -/
def objectOr (fields : List (String × Value)) (name : String) (default : List (String × Value)) :
    Form (List (String × Value)) :=
  match Entries.get? fields name with
  | none => .read default
  | some (.object entries) => .read entries
  | some other => .flawed .notObject [.text name] other

/-- An object or a text. What is neither is told to be no object and no text. -/
def asInput (way : List Value) : Value → Form Value
  | .text s => .read (.text s)
  | .object entries => .read (.object entries)
  | other => .refused [
      ⟨.notObject, way ++ [.text "dict[str,any]"], other⟩, ⟨.notText, way ++ [.text "str"], other⟩]

/-- The number that a value stands for. Integers that are too large for it stand for none. -/
def asNumber (way : List Value) (found : Value) : Form Binary64 :=
  match found with
  | .number x => .read x
  | .integer n =>
    match Binary64.ofInt n with
    | .infinite _ => .flawed .notNumber way found
    | x => .read x
  | .boolean b => .read (.ofInt (if b then 1 else 0))
  | .text s =>
    match Number.readLoosely? s.toList with
    | some x => .read x
    | none => .flawed .unreadableNumber way found
  | _ => .flawed .notNumber way found

/-- A number above zero. -/
def asPositive (way : List Value) (found : Value) : Form Binary64 :=
  match asNumber way found with
  | .read x => if Binary64.zero.lt x then .read x else .flawed .notPositive way found
  | .refused problems => .refused problems

end Body

end BotScript
