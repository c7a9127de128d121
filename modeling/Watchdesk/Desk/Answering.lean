import Watchdesk.Desk.Exporting
import Watchdesk.Desk.Running
import Watchdesk.Interface.Route

/-!
# Answering the operator interface

What a desk does with a request to its interface. Most requests are answered at once; the start of
a job and an export are answered when they are over.
-/

namespace Watchdesk.Desk

/-- Answer a request. -/
def respond (d : Desk) (caller : Caller) (response : Response) : Desk :=
  d.tell (.answered caller response)

/-- Grant what a request asks for. -/
def grant (d : Desk) (caller : Caller) (finish : Response → Response) : Wish → Desk
  | .alive => d.respond caller (finish (.text 200 "OK"))
  | .job => d.respond caller (finish (.json 200 d.jobs.snapshot.toJson))
  | .health => d.respond caller (finish (.json 200 d.health.snapshot.toJson))
  | .runner => d.respond caller (finish (.json 200 d.runner.view.toJson))
  | .reset =>
    let d := d.reset
    d.respond caller (finish (.json 200 d.runner.view.toJson))
  | .start kind => d.runKind caller kind
  | .notices =>
    d.respond caller (finish (.json 200 (.array (d.center.notices.map Notice.toJson))))
  | .dismiss id => (d.dismiss id).2.respond caller (finish (.empty 204))
  | .progress =>
    let progress := match d.progress with
      | some p => p.toJson
      | none => .null
    d.respond caller (finish (.json 200 progress))
  | .export listing date search confirm =>
    d.requestExport { caller, selection := { listing, date, search }, confirm }

/-- Take a request. The response to `HEAD` has no body. -/
def visit (d : Desk) (caller : Caller) (request : InterfaceRequest) : Desk :=
  let finish := fun (r : Response) => if request.method = "HEAD" then r.withoutBody else r
  match request.wish with
  | .error response => d.respond caller (finish response)
  | .ok wish => d.grant caller finish wish

end Watchdesk.Desk
