import BotScript.Service.Address

/-!
The routes of the service and the addresses that name them.
-/

namespace BotScript

/-- The routes of the service. -/
inductive Route
  | health
  | metrics
  | parse
  | validate
  | execute
  | sessions
  | sessionMemory (id : String)
  | clearSession (id : String)
deriving DecidableEq, Repr

namespace Route

/-- The method that a route answers to. -/
def method : Route → String
  | health | metrics | sessions | sessionMemory _ => "GET"
  | parse | validate | execute | clearSession _ => "POST"

/-- A route reads the bodies of its requests. -/
def readsBody : Route → Bool
  | parse | validate | execute => true
  | _ => false

/-- The route with the given parts between slashes. -/
def ofParts? : List String → Option Route
  | ["", "health"] => some health
  | ["", "api", "metrics"] => some metrics
  | ["", "api", "parse"] => some parse
  | ["", "api", "validate"] => some validate
  | ["", "api", "execute"] => some execute
  | ["", "api", "sessions"] => some sessions
  | ["", "api", "sessions", id, "memory"] => if id = "" then none else some (sessionMemory id)
  | ["", "api", "sessions", id, "clear"] => if id = "" then none else some (clearSession id)
  | _ => none

/-- A path without the slashes at its end. -/
def withoutSlashes (path : String) : String :=
  String.ofList ((path.toList.reverse.dropWhile (· = '/')).reverse)

/-- The route that a path names. A line end behind the path does no harm. -/
def ofPath? (path : String) : Option Route :=
  let chars := path.toList
  let chars := if chars.getLast? = some '\n' then chars.dropLast else chars
  ofParts? ((Address.parts chars).map String.ofList)

/-- The route that a path in an address names. From a path that names none but would without the
slashes at its end, clients are sent on to that path as a new address, so often at most. -/
def resolve : (redirections : Nat) → (path : List Char) → Option Route
  | 0, path => ofPath? (Address.meant path)
  | redirections + 1, path =>
    let found := Address.meant path
    let shorter := withoutSlashes found
    match ofPath? found, ofPath? shorter with
    | some route, _ => some route
    | none, some _ => resolve redirections (Address.withoutQuery shorter.toList)
    | none, none => none

/-- How often clients let themselves be sent on. -/
def redirectionLimit : Nat := 20

/-- The route that an address names. -/
def ofAddress? (address : String) : Option Route :=
  resolve redirectionLimit (Address.ofText address.toList).rootedPath

end Route

end BotScript
