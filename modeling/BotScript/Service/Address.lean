import BotScript.Text.Percent
import BotScript.Text.Quoted
import BotScript.Text.Utf8

/-!
Addresses of requests, of which only the path counts. It is cleaned before it is compared with
anything: dots between slashes are followed, and escapes are read, twice, because clients read them
once before the service does.
-/

namespace BotScript

/-- Why a text is no address. -/
inductive AddressFlaw
  | tooLong
  /-- A control character, and the number of characters in front of it. -/
  | control (c : Char) (place : Nat)
  | doubleSlash
  | colon
  /-- A character has no bytes. -/
  | noBytes (reason : String)
deriving DecidableEq, Repr

def AddressFlaw.message : AddressFlaw → String
  | tooLong => "URL too long"
  | control c place =>
    s!"Invalid non-printable ASCII character in URL, {Text.quoted (String.singleton c)} at position {place}."
  | doubleSlash => "Relative URLs cannot have a path starting with '//'"
  | colon => "Relative URLs cannot have a path starting with ':'"
  | noBytes reason => reason

/-- An address without its query. -/
structure Address where
  scheme : List Char
  host : List Char
  path : List Char

namespace Address

/-- A text up to where a query or a fragment starts. -/
def withoutQuery (text : List Char) : List Char :=
  text.takeWhile fun c => c ≠ '?' && c ≠ '#'

/-- The length of the scheme that a text starts with; a colon ends it, and it can be empty. -/
def schemeLength? (text : List Char) : Option Nat :=
  let word := text.takeWhile fun c => c.isAlphanum || c = '+' || c = '.' || c = '-'
  let opens := match word.head? with
    | some c => c.isAlpha
    | none => true
  if opens && (text.drop word.length).head? = some ':' then some word.length else none

/-- The parts of an address. -/
def ofText (text : List Char) : Address :=
  let text := withoutQuery text
  let (scheme, rest) := match schemeLength? text with
    | some length => (text.take length, text.drop (length + 1))
    | none => ([], text)
  match rest with
  | '/' :: '/' :: rest => ⟨scheme, rest.takeWhile (· ≠ '/'), rest.dropWhile (· ≠ '/')⟩
  | path => ⟨scheme, [], path⟩

/-- An address names a host; marks without words around them name none. -/
def hasHost (address : Address) : Bool :=
  address.host.any fun c => c ≠ '@' && c ≠ ':'

/-- The most characters of an address. -/
def lengthLimit : Nat := 65536

/-- Control characters. -/
def isControl (c : Char) : Bool :=
  c.toNat < 0x20 || c.toNat = 0x7f

/-- What is wrong with an address, if something is. -/
def flaw? (text : List Char) : Option AddressFlaw :=
  let address := ofText text
  let bare := address.scheme.isEmpty && !address.hasHost
  if lengthLimit < text.length then some .tooLong
  else
    match text.dropWhile (!isControl ·), address.path with
    | c :: rest, _ => some (.control c (text.length - rest.length - 1))
    | [], '/' :: '/' :: _ => if bare then some .doubleSlash else byteFlaw?
    | [], ':' :: _ => if bare then some .colon else byteFlaw?
    | [], _ => byteFlaw?
where
  byteFlaw? : Option AddressFlaw :=
    (text.find? Text.isLone).bind fun c => (Text.Utf8.refusal? [c]).map .noBytes

/-- The path of an address from the root on. An address that does not name both a scheme and a host
is one of the service, so that all slashes in front are as good as one. -/
def rootedPath (address : Address) : List Char :=
  if !address.scheme.isEmpty && address.hasHost then address.path
  else '/' :: address.path.dropWhile (· = '/')

/-- The parts of a path between its slashes. -/
def parts : List Char → List (List Char)
  | [] => [[]]
  | c :: rest =>
    if c = '/' then [] :: parts rest
    else
      match parts rest with
      | [] => [[c]]
      | part :: others => (c :: part) :: others

/-- Parts between slashes without dots: one dot stays at its place, two go back to the part
before. -/
def withoutDots (parts : List String) : List String :=
  parts.foldl (fun kept part =>
    if part = "." then kept
    else if part = ".." then (if kept = [""] then kept else kept.dropLast)
    else kept ++ [part]) []

/-- The path that is meant by a path from the root on. -/
def meant (path : List Char) : String :=
  Text.percentDecoded (Text.percentDecoded
    ("/".intercalate (withoutDots ((parts path).map String.ofList))))

end Address

end BotScript
