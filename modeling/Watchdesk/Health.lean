import Watchdesk.Json.Decoder

/-!
# Health of the backend

What the backend says of itself: an overall status, and a list of problems with a hint for each.
-/

namespace Watchdesk

/-- Overall health. -/
inductive HealthStatus where
  | ok
  | warning
  | error
  /-- Nothing is known yet. -/
  | loading
deriving DecidableEq, Repr, Inhabited

/-- The name of a status. -/
def HealthStatus.name : HealthStatus → String
  | .ok => "ok"
  | .warning => "warning"
  | .error => "error"
  | .loading => "loading"

/-- Every status with its name. -/
def HealthStatus.names : List (String × HealthStatus) :=
  [.ok, .warning, .error, .loading].map fun s => (s.name, s)

/-- How bad a problem is. -/
inductive Severity where
  | error
  | warning
deriving DecidableEq, Repr, Inhabited

/-- The name of a severity. -/
def Severity.name : Severity → String
  | .error => "error"
  | .warning => "warning"

/-- Every severity with its name. -/
def Severity.names : List (String × Severity) := [.error, .warning].map fun s => (s.name, s)

/-- A problem of the backend. -/
structure Issue where
  severity : Severity
  field : String
  message : String
  hint : String := ""
deriving DecidableEq, Repr, Inhabited

namespace Issue

open Decoder

/-- A problem in JSON. -/
def decoder : Decoder Issue :=
  record
    [Decoder.field "type" (choice Severity.names), Decoder.field "field" string,
      Decoder.field "message" string, Decoder.field "hint" string]
    fun r => do
      let severity ← r.required "type" (choice Severity.names)
      let field ← r.required "field" string
      let message ← r.required "message" string
      let hint ← r.defaulted "hint" string ""
      .ok { severity, field, message, hint }

/-- The problem as a JSON value. -/
def toJson (i : Issue) : Json :=
  .ofMembers [("type", .string i.severity.name), ("field", .string i.field),
    ("message", .string i.message), ("hint", .string i.hint)]

end Issue

/-- The health of the backend. -/
structure HealthState where
  status : HealthStatus
  issues : List Issue := []
deriving DecidableEq, Repr, Inhabited

namespace HealthState

open Decoder

/-- What is known before the backend was asked. -/
def loading : HealthState := { status := .loading }

/-- What is known of a backend that does not answer. -/
def unreachable : HealthState where
  status := .error
  issues := [{
    severity := .error
    field := "connection"
    message := "Backend is unreachable"
    hint := "Check that the backend server is running" }]

/-- The problems that are errors. -/
def errors (s : HealthState) : List Issue := s.issues.filter fun i => i.severity == .error

/-- Health in JSON; only the status has to be there. -/
def decoder : Decoder HealthState :=
  record
    [field "status" (choice HealthStatus.names), field "issues" (list Issue.decoder)]
    fun r => do
      let status ← r.required "status" (choice HealthStatus.names)
      let issues ← r.defaulted "issues" (list Issue.decoder) []
      .ok { status, issues }

/-- The health as a JSON value. -/
def toJson (s : HealthState) : Json :=
  .ofMembers [("status", .string s.status.name), ("issues", .array (s.issues.map Issue.toJson))]

end HealthState

end Watchdesk
