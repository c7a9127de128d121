import Watchdesk.Backend.Request
import Watchdesk.Backend.Retry

/-!
# The script of a backend

A script plays the backend: it has a queue of cues for each of four lines, and takes the first cue
of a line for each request on it; the last cue stays for all requests that follow. A cue may make
its answer wait until it is released.
-/

namespace Watchdesk.Rehearsal

/-- A line on which requests come. -/
inductive Line where
  | start
  | list
  | health
  | job
deriving DecidableEq, Repr, Inhabited

/-- The name of a line. -/
def Line.name : Line → String
  | .start => "start"
  | .list => "list"
  | .health => "health"
  | .job => "job"

/-- Every line with its name. -/
def Line.names : List (String × Line) :=
  [.start, .list, .health, .job].map fun l => (l.name, l)

/-- A text stands inside a text. -/
def contains (part : List Char) : List Char → Bool
  | [] => part.isEmpty
  | c :: s => part.isPrefixOf (c :: s) || contains part s

/-- The line of a request. -/
def Line.ofRequest : Request → Line
  | .post _ _ => .start
  | .get url =>
    if contains "/api/suspicious/".toList url.toList then .list
    else if url.endsWith "/api/health" then .health
    else .job

/-- What the backend answers. -/
inductive Answer where
  | reply (r : Reply)
  | failure (f : Fault)
  /-- The rows that the address asks for, of as many as there are, and a total. -/
  | rows (total available : Nat)
deriving Repr, Inhabited

/-- An answer, and whether it waits. -/
structure Cue where
  answer : Answer
  hold : Bool := false
deriving Repr, Inhabited

/-- A number in the query of an address. -/
def queryNumber (name : String) (url : String) : Option Nat :=
  let query := ((url.toList.dropWhile (· ≠ '?')).drop 1).takeWhile (· ≠ '#')
  (Text.splitOn '&' query).findSome? fun pair =>
    let (key, value) := pair.span (· ≠ '=')
    if key = name.toList && Digits.isNumeral (value.drop 1) then
      some (Digits.value (value.drop 1))
    else none

/-- A row of a list. -/
def row (n : Nat) : Json :=
  .ofMembers [("ipaddress", .string ("198.51.100." ++ toString (n % 255))),
    ("useragent", .string "bot/1.0"), ("total_clicks", .nat n),
    ("total_conversions", .nat (2 * n)), ("reasons", .strings ["burst"])]

/-- A page with the rows that an address asks for. -/
def page (total available : Nat) (url : String) : Json :=
  let offset := (queryNumber "offset" url).getD 0
  let limit := (queryNumber "limit" url).getD 0
  let count := min (offset + limit) available - offset
  .ofMembers [("data", .array ((List.range count).map fun i => row (offset + i))),
    ("total", .nat total)]

/-- The answer to a request. -/
def Answer.to (a : Answer) (request : Request) : Except Fault Reply :=
  match a with
  | .reply r => .ok r
  | .failure f => .error f
  | .rows total available =>
    let url := match request with
      | .get url | .post url _ => url
    .ok { status := 200, body := (page total available url).compact }

/-- A script: the cues of each line. -/
structure Script where
  queue : Line → List Cue := fun _ => []

namespace Script

/-- A script with another queue on a line. -/
def set (s : Script) (line : Line) (cues : List Cue) : Script where
  queue := fun l => if l = line then cues else s.queue l

/-- What is answered on a line without cues. -/
def silence (line : Line) : Cue where
  answer := .failure (.transport ("no reply for " ++ line.name))

/-- The cue of the `n`th request that follows on a line. -/
def cue (s : Script) (line : Line) (n : Nat) : Cue :=
  match (s.queue line)[n]? with
  | some c => c
  | none => (s.queue line).getLast?.getD (silence line)

/-- The script after `n` requests on a line. -/
def drop (s : Script) (line : Line) (n : Nat) : Script :=
  let cues := s.queue line
  s.set line (cues.drop (min n (cues.length - 1)))

end Script

end Watchdesk.Rehearsal
