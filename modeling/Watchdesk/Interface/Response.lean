import Watchdesk.Export.Outcome
import Watchdesk.Json.Printer
import Watchdesk.Notice.Basic
import Watchdesk.Runner

/-!
# Responses of the operator interface

A response has a status, headers and a body. Every response may be read by any page.
-/

namespace Watchdesk

/-- A response of the operator interface. -/
structure Response where
  status : Nat
  headers : List (String × String) := []
  body : String := ""
deriving DecidableEq, Repr, Inhabited

namespace Response

/-- Any page may read the response. -/
def readable : List (String × String) :=
  [("access-control-allow-origin", "*"), ("access-control-expose-headers", "*")]

/-- A response with a JSON body. -/
def json (status : Nat) (body : Json) : Response where
  status
  headers := ("content-type", "application/json") :: readable
  body := body.compact

/-- A response with a text body. -/
def text (status : Nat) (body : String) : Response where
  status
  headers := ("content-type", "text/plain; charset=utf-8") :: readable
  body

/-- A response without a body. -/
def empty (status : Nat) : Response := { status, headers := readable }

/-- A response that tells which methods there are. -/
def wrongMethod (allowed : String) : Response where
  status := 405
  headers := ("allow", allowed) :: readable

/-- A page asks what it may do: everything. -/
def preflight (allowed : Option String) : Response where
  status := 200
  headers := (allowed.toList.map fun a => ("allow", a))
    ++ [("access-control-allow-origin", "*"), ("access-control-allow-methods", "*"),
      ("access-control-allow-headers", "*")]

/-- The same response without its body. -/
def withoutBody (r : Response) : Response := { r with body := "" }

/-- A detail as a JSON value. -/
def detail (words : String) : Json := .ofMembers [("detail", .string words)]

/-- The status of a fault: a refusal that blames the request keeps its status, any other answer of
the backend is that of a bad gateway. -/
def faultStatus : Fault → Nat
  | .refused (some status) _ => if 400 ≤ status ∧ status < 500 then status else 502
  | .refused none _ => 502
  | .transport _ => 502
  | _ => 500

/-- The response to a request that failed. -/
def ofFault (fault : Fault) : Response :=
  json (faultStatus fault) (detail (fault.message "Request failed"))

/-- The response to a request to export. -/
def ofReport : Except Fault Export.Report → Response
  | .error fault => ofFault fault
  | .ok .busy =>
    json 409 (.ofMembers [("status", .string "busy"),
      ("detail", .string "An export is already running")])
  | .ok (.needsConfirmation total cap question) =>
    json 409 (Export.Report.needsConfirmation total cap question).toJson
  | .ok report => json 200 report.toJson

/-- The response to a request to start a job, once the backend has answered. -/
def ofView (view : RunnerView) : Response :=
  json (if view.status = .error then 502 else 202) view.toJson

/-- The response to a request to start a job while another one runs. -/
def runnerBusy : Response := json 409 (detail "Another job is already running")

end Response

end Watchdesk
