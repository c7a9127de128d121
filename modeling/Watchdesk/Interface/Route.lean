import Watchdesk.Interface.ContentType
import Watchdesk.Interface.Response
import Watchdesk.Job.Kind
import Watchdesk.Suspect.Basic
import Watchdesk.Text.Percent

/-!
# Routes of the operator interface

Which request asks for what. The path decides first, then the method, then the parameter in the
path, and last the body.
-/

namespace Watchdesk

/-- A request to the operator interface. -/
structure InterfaceRequest where
  method : String
  /-- The path, perhaps behind a scheme and a host, and a query that is not looked at. -/
  uri : String
  contentType : Option String := none
  body : String := ""
deriving DecidableEq, Repr, Inhabited

/-- What a path leads to. -/
inductive Route where
  | alive
  | job
  | health
  | runner
  | reset
  | start
  | notices
  | notice (id : String)
  | progress
  | export (kind : String)
deriving DecidableEq, Repr

/-- What a request asks for. -/
inductive Wish where
  | alive
  | job
  | health
  | runner
  | reset
  | start (kind : JobKind)
  | notices
  | dismiss (id : String)
  | progress
  | export (listing : Listing) (date search : Option String) (confirm : Bool)
deriving DecidableEq, Repr

namespace Route

/-- The methods of a route, as a response names them. -/
def methods : Route → String
  | .alive | .job | .health | .runner | .notices | .progress => "GET,HEAD"
  | .reset | .start | .export _ => "POST"
  | .notice _ => "DELETE"

/-- A route has a method. -/
def allows (r : Route) (method : String) : Bool :=
  match r with
  | .alive | .job | .health | .runner | .notices | .progress => method ∈ ["GET", "HEAD"]
  | .reset | .start | .export _ => method = "POST"
  | .notice _ => method = "DELETE"

/-- The route of the segments of a path. -/
def ofSegments : List String → Option Route
  | ["health"] => some .alive
  | ["api", "job"] => some .job
  | ["api", "health"] => some .health
  | ["api", "runner"] => some .runner
  | ["api", "runner", "reset"] => some .reset
  | ["api", "jobs"] => some .start
  | ["api", "notices"] => some .notices
  | ["api", "notices", id] => if id = "" then none else some (.notice id)
  | ["api", "export", "progress"] => some .progress
  | ["api", "export", kind] => if kind = "" then none else some (.export kind)
  | _ => none

/-- What stands in an address from its path on; the address may have a scheme and a host. -/
def withoutHost (uri : List Char) : List Char :=
  match (uri.span fun c => c.isAlphanum || c ∈ ['+', '-', '.']).2 with
  | ':' :: '/' :: '/' :: rest => rest.dropWhile fun c => !(c ∈ ['/', '?', '#'])
  | _ => uri

/-- The route of an address. -/
def ofUri (uri : String) : Option Route :=
  let path := (withoutHost uri.toList).takeWhile fun c => !(c ∈ ['?', '#'])
  match (String.ofList path).splitOn "/" with
  | "" :: segments => ofSegments segments
  | _ => none

end Route

namespace InterfaceRequest

open Decoder

/-- The response to a body that is not what was asked for. -/
def refusal : Refusal → Response
  | .malformed => .text 400 "Malformed JSON"
  | .mismatched => .text 422 "Unexpected JSON"

/-- The value that the body holds. -/
def value {α : Type} (r : InterfaceRequest) (d : Decoder α) : Except Response α :=
  if (r.contentType.map ContentType.isJson).getD false then
    match d.read r.body with
    | .ok x => .ok x
    | .error why => .error (refusal why)
  else .error (.text 415 "Expected JSON")

/-- What the body of a request for an export says. -/
structure ExportBody where
  date : Option String := none
  search : Option String := none
  confirm : Bool := false

/-- The body of a request for an export in JSON. -/
def exportBody : Decoder ExportBody :=
  record
    [field "date" (optional string), field "search" (optional string), field "confirm" bool]
    fun r => do
      let date ← r.defaulted "date" (optional string) none
      let search ← r.defaulted "search" (optional string) none
      let confirm ← r.defaulted "confirm" bool false
      .ok { date, search, confirm }

/-- A parameter of a path. -/
def parameter (segment : String) : Except Response String :=
  match Percent.decode segment.toList with
  | some s => .ok s
  | none => .error (.text 400 "Invalid path")

/-- What a request to a route asks for. -/
def wishOf (r : InterfaceRequest) : Route → Except Response Wish
  | .alive => .ok .alive
  | .job => .ok .job
  | .health => .ok .health
  | .runner => .ok .runner
  | .reset => .ok .reset
  | .notices => .ok .notices
  | .progress => .ok .progress
  | .start => do
    let kind ← r.value JobKind.decoder
    .ok (.start kind)
  | .notice id => do
    let id ← parameter id
    .ok (.dismiss id)
  | .export kind => do
    let kind ← parameter kind
    match Listing.names.lookup kind with
    | none => .error (.text 400 "Invalid path")
    | some listing =>
      let body ← r.value exportBody
      .ok (.export listing body.date body.search body.confirm)

/-- What a request asks for, or the response to one that asks for nothing. -/
def wish (r : InterfaceRequest) : Except Response Wish :=
  let route := Route.ofUri r.uri
  if r.method = "OPTIONS" then .error (.preflight (route.map Route.methods))
  else
    match route with
    | none => .error (.empty 404)
    | some route =>
      if route.allows r.method then r.wishOf route else .error (.wrongMethod route.methods)

end InterfaceRequest

end Watchdesk
