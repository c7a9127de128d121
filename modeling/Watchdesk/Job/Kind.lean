import Watchdesk.Json.Decoder

/-!
# Jobs that an operator can start

Each kind of job has arguments of its own, an id that the backend gives it, and a message that is
shown until the backend has something to say.

In JSON a kind is an object whose member `kind` is the tag, or an array that starts with the tag;
the arguments are the other members, or the items behind the tag. All of it is read as JSON before
the arguments are looked at; members that are no arguments are ignored.
-/

namespace Watchdesk

/-- A job that an operator can start. -/
inductive JobKind where
  /-- Take in the click log of a date. -/
  | ingestClicks (date : String)
  /-- Take in the conversion log of a date. -/
  | ingestConversions (date : String)
  /-- Renew what is known of the last hours. -/
  | refresh (hours : Nat) (clicks conversions detect : Bool)
  /-- Renew the master data. -/
  | syncMasters
deriving DecidableEq, Repr, Inhabited

namespace JobKind

/-- The id that the backend gives to a job of this kind. -/
def jobId : JobKind → String
  | .ingestClicks date => "ingest_clicks_" ++ date
  | .ingestConversions date => "ingest_conversions_" ++ date
  | .refresh hours .. => "refresh_" ++ toString hours ++ "h"
  | .syncMasters => "sync_masters"

/-- What is shown while the backend is asked to start the job. -/
def startMessage : JobKind → String
  | .ingestClicks date => "Ingesting click logs for " ++ date ++ "..."
  | .ingestConversions date => "Ingesting conversion logs for " ++ date ++ "..."
  | .refresh hours .. => "Refreshing data for the last " ++ toString hours ++ " hours..."
  | .syncMasters => "Synchronizing master data..."

/-- The arguments of a job in JSON. -/
def arguments : JobKind → List (String × Json)
  | .ingestClicks date | .ingestConversions date => [("date", .string date)]
  | .refresh hours clicks conversions detect =>
    [("hours", .nat hours), ("clicks", .bool clicks), ("conversions", .bool conversions),
      ("detect", .bool detect)]
  | .syncMasters => []

/-- The tag of a kind. -/
inductive Tag where
  | ingestClicks
  | ingestConversions
  | refresh
  | syncMasters
deriving DecidableEq, Repr

/-- Every tag with its name. -/
def tags : List (String × Tag) :=
  [("ingest_clicks", .ingestClicks), ("ingest_conversions", .ingestConversions),
    ("refresh", .refresh), ("sync_masters", .syncMasters)]

/-- The name of the tag of a kind. -/
def tagName : JobKind → String
  | .ingestClicks _ => "ingest_clicks"
  | .ingestConversions _ => "ingest_conversions"
  | .refresh .. => "refresh"
  | .syncMasters => "sync_masters"

/-- The kind as a JSON value. -/
def toJson (k : JobKind) : Json := .ofMembers (("kind", .string k.tagName) :: k.arguments)

/-- The arguments as they were given. -/
inductive Given where
  | named (members : List (String × Json))
  | listed (items : List Json)
deriving Repr

/-- An argument by its name and its place; a name that is given twice is refused. -/
def Given.argument (g : Given) (name : String) (place : Nat) : Except Refusal (Option Json) :=
  match g with
  | .listed items => .ok items[place]?
  | .named members =>
    match members.filter (fun m => m.1 == name) with
    | [] => .ok none
    | [m] => .ok (some m.2)
    | _ => .error .mismatched

/-- Refuse more than `most` listed arguments. -/
def Given.atMost (g : Given) (most : Nat) : Except Refusal Unit :=
  match g with
  | .listed items => if items.length ≤ most then .ok () else .error .mismatched
  | .named _ => .ok ()

/-- The text of a date. -/
def dateOf : Option Json → Except Refusal String
  | some (.string s) => .ok s
  | _ => .error .mismatched

/-- A number of hours, a day unless it is given. -/
def hoursOf : Option Json → Except Refusal Nat
  | none => .ok 24
  | some (.number (.natural n)) => if n < 2 ^ 32 then .ok n else .error .mismatched
  | some _ => .error .mismatched

/-- A truth value with a default. -/
def flagOf (fallback : Bool) : Option Json → Except Refusal Bool
  | none => .ok fallback
  | some (.bool b) => .ok b
  | some _ => .error .mismatched

/-- The kind with a tag and its arguments. -/
def ofTag (g : Given) : Tag → Except Refusal JobKind
  | .ingestClicks => do
    g.atMost 1
    let date ← dateOf (← g.argument "date" 0)
    .ok (.ingestClicks date)
  | .ingestConversions => do
    g.atMost 1
    let date ← dateOf (← g.argument "date" 0)
    .ok (.ingestConversions date)
  | .refresh => do
    g.atMost 4
    let hours ← hoursOf (← g.argument "hours" 0)
    let clicks ← flagOf true (← g.argument "clicks" 1)
    let conversions ← flagOf true (← g.argument "conversions" 2)
    let detect ← flagOf false (← g.argument "detect" 3)
    .ok (.refresh hours clicks conversions detect)
  | .syncMasters => do
    g.atMost 0
    .ok .syncMasters

/-- A tag is a text. -/
def readTag : Outline → Except Refusal Tag
  | .text raw => do Decoder.named tags (← Outline.rawString raw)
  | o => .error o.refuse

/-- The tag among members, and the other members. -/
def readMembers (depth : Nat) :
    Option Tag → List (List Char × Outline) →
      Except Refusal (Option Tag × List (String × Json))
  | tag, [] => .ok (tag, [])
  | tag, (raw, o) :: ms => do
    let key ← Outline.rawString raw
    if key = "kind" then
      if tag.isSome then .error .mismatched else
      let found ← readTag o
      readMembers depth (some found) ms
    else
      let v ← Outline.json depth o
      let (tag, rest) ← readMembers depth tag ms
      .ok (tag, (key, v) :: rest)

/-- A kind of job in JSON. -/
def decoder : Decoder JobKind
  | 0, .array .. | 0, .object .. => .error .malformed
  | depth + 1, .object ms closed => do
    let (tag, members) ← readMembers depth none ms
    if !closed then .error .malformed else
    match tag with
    | some tag => ofTag (.named members) tag
    | none => .error .mismatched
  | depth + 1, .array os closed =>
    match os with
    | [] => .error (if closed then .mismatched else .malformed)
    | o :: os => do
      let tag ← readTag o
      let items ← Outline.jsonItems depth os
      if closed then ofTag (.listed items) tag else .error .malformed
  | _, o => .error o.refuse

end JobKind

end Watchdesk
