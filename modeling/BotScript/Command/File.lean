import BotScript.Text.Utf8

/-!
Files as commands name them, and what reading one can come to.
-/

namespace BotScript

namespace Path

/-- The names that a path goes through; a dot stays where it is. -/
def parts (path : String) : List String :=
  (path.splitOn "/").filter fun part => part ≠ "" && part ≠ "."

/-- The slashes that make a path absolute. Two of them are kept apart, more are as good as one. -/
def root (path : String) : String :=
  match (path.toList.takeWhile (· = '/')).length with
  | 0 => ""
  | 2 => "//"
  | _ => "/"

/-- A path without idle parts. -/
def tidy (path : String) : String :=
  let tidied := root path ++ "/".intercalate (parts path)
  if tidied = "" then "." else tidied

/-- The last name of a path without its ending; a dot that starts or ends the name starts no
ending. -/
def stem (path : String) : String :=
  let name := ((parts path).getLast?).getD ""
  let backwards := name.toList.reverse
  let ending := backwards.takeWhile (· ≠ '.')
  let front := (backwards.drop (ending.length + 1)).reverse
  if ending.isEmpty || front.isEmpty then name else String.ofList front

/-- Surrogates that stand for single bytes in paths. -/
def isByte (c : Char) : Bool :=
  Text.isLone c && 0xdc80 ≤ Text.codePoint c && Text.codePoint c ≤ 0xdcff

/-- The number of bytes of a path or of a name in it. -/
def byteCount (path : String) : Nat :=
  path.toList.foldl (fun count c => count + if isByte c then 1 else c.utf8Size) 0

/-- The most bytes of a path. -/
def byteLimit : Nat := 4095

/-- The most bytes of a name in a path. -/
def nameLimit : Nat := 255

end Path

/-- Why nothing can have a path. -/
inductive PathFlaw
  | nul
  | noBytes (reason : String)
deriving DecidableEq, Repr

def PathFlaw.message : PathFlaw → String
  | nul => "embedded null byte"
  | noBytes reason => reason

/-- The flaw of a path, if it has one. -/
def Path.flaw? (path : String) : Option PathFlaw :=
  match Text.Utf8.refusalOf? (!isByte ·) path.toList with
  | some reason => some (.noBytes reason)
  | none => if path.toList.contains '\x00' then some .nul else none

/-- Why a file cannot be read. -/
inductive FileProblem
  | notFound
  | isDirectory
  /-- The path goes through a file. -/
  | notDirectory
  | nameTooLong
deriving DecidableEq, Repr

/-- A problem with its number and the path. -/
def FileProblem.describe (problem : FileProblem) (path : String) : String :=
  let words :=
    match problem with
    | notFound => "[Errno 2] No such file or directory"
    | isDirectory => "[Errno 21] Is a directory"
    | notDirectory => "[Errno 20] Not a directory"
    | nameTooLong => "[Errno 36] File name too long"
  s!"{words}: {Text.quoted path}"

/-- The texts of the files in a folder, by their paths. -/
structure Folder where
  files : List (String × String)

namespace Folder

/-- The text of the file that some names lead to. -/
def text? (folder : Folder) (names : List String) : Option String :=
  (folder.files.reverse.find? fun file => Path.parts file.1 = names).map (·.2)

/-- Some names lead to a file or to a folder around one. -/
def holds (folder : Folder) (names : List String) : Bool :=
  folder.files.any fun file => names.isPrefixOf (Path.parts file.1)

/-- Where names lead from a place, which is given by the names that lead to it or lies outside the
folder. -/
def follow (folder : Folder) :
    Option (List String) → List String → Except FileProblem (Option (List String))
  | place, [] => .ok place
  | place, name :: rest =>
    if (place.bind folder.text?).isSome then .error .notDirectory
    else if name = ".." then
      match place with
      | none | some [] => follow folder none rest
      | some (first :: more) => follow folder (some (first :: more).dropLast) rest
    else if Path.nameLimit < Path.byteCount name then .error .nameTooLong
    else
      match place with
      | none => .error .notFound
      | some names =>
        if folder.holds (names ++ [name]) then follow folder (some (names ++ [name])) rest
          else .error .notFound

/-- The text of the file that a path names within a folder. -/
def read (folder : Folder) (path : String) : Except FileProblem String :=
  if Path.byteLimit < Path.byteCount path then .error .nameTooLong
  else do
    let place ← folder.follow (if Path.root path = "" then some [] else none) (Path.parts path)
    match place.bind folder.text? with
    | some text => .ok text
    | none => .error .isDirectory

end Folder

/-- A text whose line ends, of whatever system, are line feeds. -/
def withLineFeeds : List Char → List Char
  | '\r' :: '\n' :: rest => '\n' :: withLineFeeds rest
  | '\r' :: rest => '\n' :: withLineFeeds rest
  | c :: rest => c :: withLineFeeds rest
  | [] => []

end BotScript
