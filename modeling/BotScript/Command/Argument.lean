import BotScript.Entries
import BotScript.Text.CharClass

/-!
The arguments of a command. An option is written in full or as a beginning of its name that no other
option has, its value behind `=` or as the next argument. Anything else that does not look like an
option is a word, and so is everything behind `--`.
-/

namespace BotScript

/-- What an option is for. -/
inductive OptionUse
  /-- It asks for an explanation and ends everything else; a letter behind a single dash may stand
  for it. -/
  | explains (letter : Option Char)
  | switches
  /-- It has a value, which must be accepted. -/
  | takes (accepts : String → Bool)

/-- An option of a command. -/
structure OptionForm where
  name : String
  use : OptionUse
  /-- The options that cannot be given beside it. -/
  rivals : List String

/-- The letter that stands for an option. -/
def OptionForm.letter? (form : OptionForm) : Option Char :=
  match form.use with
  | .explains letter => letter
  | _ => none

/-- Why arguments are not read to their end. -/
inductive Halt
  | misuse
  /-- An option asks for an explanation. -/
  | explained (option : String)
deriving DecidableEq, Repr

/-- How an argument reads. -/
inductive Argument
  | word
  /-- An option with the value that is attached to it. -/
  | option (form : OptionForm) (attached : Option String)
  /-- The letter of an option, and what is strung behind it. -/
  | letter (form : OptionForm) (behind : List Char)
  /-- A beginning of several names. -/
  | ambiguous
  | unknown

namespace Argument

/-- The digits of a number, perhaps with a point that more digits follow. A line end behind them
does no harm. -/
def isNumeral (chars : List Char) : Bool :=
  let isDecimal (c : Char) : Bool := (Text.decimalValue? c).isSome
  let chars := if chars.getLast? = some '\n' then chars.dropLast else chars
  match chars.dropWhile isDecimal with
  | [] => !chars.isEmpty
  | '.' :: fraction => !fraction.isEmpty && fraction.all isDecimal
  | _ => false

/-- A name and what is attached to it behind the first `=`. -/
def splitName (arg : String) : String × Option String :=
  let chars := arg.toList
  match chars.dropWhile (· ≠ '=') with
  | [] => (arg, none)
  | _ :: attached => (String.ofList (chars.takeWhile (· ≠ '=')), some (String.ofList attached))

/-- An argument behind whose dash no option is found. Negative numbers are words, and so is what has
a space in it. -/
def unmatched (chars : List Char) : Argument :=
  if isNumeral chars || chars.contains ' ' then word else unknown

/-- An argument as it reads where some options can be given. -/
def read (forms : List OptionForm) (arg : String) : Argument :=
  match arg.toList with
  | '-' :: '-' :: rest =>
    let (name, attached) := splitName arg
    match forms.find? (·.name = name), forms.filter (·.name.startsWith name) with
    | some form, _ => option form attached
    | none, [form] => option form attached
    | none, [] => unmatched ('-' :: rest)
    | none, _ => ambiguous
  | '-' :: c :: rest =>
    match forms.find? (·.letter? = some c) with
    | some form => letter form rest
    | none => unmatched (c :: rest)
  | _ => word

end Argument

/-! ## Reading -/

/-- Options that were given, by name; a switch has an empty value. -/
abbrev Given := List (String × String)

namespace Given

/-- One more option, whose earlier value is forgotten. -/
def give (given : Given) (form : OptionForm) (value : String) : Except Halt Given :=
  if form.rivals.any (Entries.has given) then .error .misuse
    else .ok (Entries.put given form.name value)

/-- One more option whose value must be accepted. -/
def giveAccepted (given : Given) (form : OptionForm) (accepts : String → Bool) (value : String) :
    Except Halt Given :=
  if accepts value then given.give form value else .error .misuse

/-- Only letters of options may be strung behind a letter, with or without `=` in front of them. -/
def mayFollowLetter (forms : List OptionForm) (behind : List Char) : Bool :=
  let areLetters (chars : List Char) : Bool := chars.all fun c => forms.any (·.letter? = some c)
  match behind with
  | '=' :: attached => !attached.isEmpty && areLetters attached
  | _ => areLetters behind

/-- The options up to the first word or the `--` in front of words, and the arguments from there
on. -/
def readOptions (forms : List OptionForm) (given : Given) :
    List String → Except Halt (Given × List String)
  | [] => .ok (given, [])
  | arg :: rest =>
    if arg = "--" then .ok (given, arg :: rest)
    else
      match Argument.read forms arg with
      | .word => .ok (given, arg :: rest)
      | .ambiguous | .unknown => .error .misuse
      | .letter form behind =>
        if mayFollowLetter forms behind then .error (.explained form.name) else .error .misuse
      | .option form attached =>
        match form.use, attached with
        | .explains _, none => .error (.explained form.name)
        | .explains _, some _ | .switches, some _ => .error .misuse
        | .switches, none => do readOptions forms (← given.give form "") rest
        | .takes accepts, some value => do
          readOptions forms (← given.giveAccepted form accepts value) rest
        | .takes accepts, none =>
          match rest with
          | [] => .error .misuse
          | value :: rest =>
            match decide (value = "--"), Argument.read forms value with
            | false, .word => do readOptions forms (← given.giveAccepted form accepts value) rest
            | _, _ => .error .misuse

/-- No argument in front of a `--` fits several options. -/
def unambiguous (forms : List OptionForm) (args : List String) : Bool :=
  (args.takeWhile (· ≠ "--")).all fun arg => !(Argument.read forms arg matches .ambiguous)

/-- The options of a command without words. -/
def readAll (forms : List OptionForm) (args : List String) : Except Halt Given := do
  if !unambiguous forms args then throw .misuse
  match ← readOptions forms [] args with
  | (given, []) => return given
  | _ => throw .misuse

/-- The options and the word of a command that has one; the word stands anywhere among the
options. -/
def readWith (forms : List OptionForm) (args : List String) : Except Halt (Given × String) := do
  if !unambiguous forms args then throw .misuse
  match ← readOptions forms [] args with
  | (_, []) => throw .misuse
  | (given, ["--", word]) => return (given, word)
  | (_, "--" :: _) => throw .misuse
  | (given, [word, "--"]) => return (given, word)
  | (given, word :: rest) =>
    match ← readOptions forms given rest with
    | (given, []) => return (given, word)
    | _ => throw .misuse

end Given

end BotScript
