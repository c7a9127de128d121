import Watchdesk.Backend.Address
import Watchdesk.Fault
import Watchdesk.Job.Kind
import Watchdesk.Settings.Basic
import Watchdesk.Suspect.Sheet

/-!
# Requests to the backend

What the backend is asked, and under which address. A question only reads; a trigger starts a job.
-/

namespace Watchdesk

/-- A request to the backend. -/
inductive Request where
  /-- A question. -/
  | get (url : String)
  /-- A trigger with its body. -/
  | post (url : String) (body : Json)
deriving Repr, Inhabited

/-- Which part of a list of suspects is asked for. -/
structure ListQuery where
  selection : Selection
  limit : Nat
  offset : Nat
deriving DecidableEq, Repr, Inhabited

namespace ListQuery

/-- The parameters of a query; filters that say nothing are left out. -/
def parameters (q : ListQuery) : List (String × String) :=
  let filter := fun name value =>
    (Selection.nonEmpty value).toList.map fun v => (name, v)
  filter "date" q.selection.date
    ++ [("limit", toString q.limit), ("offset", toString q.offset)]
    ++ filter "search" q.selection.search

end ListQuery

namespace BackendSettings

/-- The address of the backend without slashes at its end. -/
def base (s : BackendSettings) : String :=
  String.ofList (s.baseUrl.toList.reverse.dropWhile (· = '/')).reverse

/-- Where the state of the job is. -/
def jobUrl (s : BackendSettings) : String := s.base ++ "/api/job/status"

/-- Where the health is. -/
def healthUrl (s : BackendSettings) : String := s.base ++ "/api/health"

/-- Where a part of a list is. -/
def listUrl (s : BackendSettings) (q : ListQuery) : Except Fault String :=
  match Address.parse (s.base ++ q.selection.listing.path).toList with
  | .ok address => .ok (String.ofList (address.withParameters q.parameters).text)
  | .error fault => .error (.settings ("Invalid backend URL: " ++ fault.text))

/-- Where a kind of job is started. -/
def triggerPath : JobKind → String
  | .ingestClicks _ => "/api/ingest/clicks"
  | .ingestConversions _ => "/api/ingest/conversions"
  | .refresh .. => "/api/refresh"
  | .syncMasters => "/api/sync/masters"

/-- The trigger of a kind of job. -/
def trigger (s : BackendSettings) (kind : JobKind) : Request :=
  .post (s.base ++ triggerPath kind) (.ofMembers kind.arguments)

end BackendSettings

end Watchdesk
