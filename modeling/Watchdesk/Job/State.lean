import Watchdesk.Json.Decoder
import Watchdesk.Time.Reading

/-!
# The backend's job

The backend runs at most one job at a time, and reports the state of that job. `JobSnapshot` is
what the desk knows of it: the last state that was reported, and whether the last attempt to learn
more failed.
-/

namespace Watchdesk

/-- The lifecycle of a job. -/
inductive JobStatus where
  | idle
  | running
  | completed
  | failed
deriving DecidableEq, Repr, Inhabited

namespace JobStatus

/-- The name of a status. -/
def name : JobStatus → String
  | .idle => "idle"
  | .running => "running"
  | .completed => "completed"
  | .failed => "failed"

/-- Every status with its name. -/
def names : List (String × JobStatus) :=
  [.idle, .running, .completed, .failed].map fun s => (s.name, s)

/-- The job is over, for better or worse. -/
def isTerminal : JobStatus → Bool
  | .completed | .failed => true
  | .idle | .running => false

end JobStatus

/-- The state of the backend's job. -/
structure JobState where
  status : JobStatus
  jobId : Option String := none
  message : Option String := none
  startedAt : Option Timestamp := none
  completedAt : Option Timestamp := none
  result : Option Members := none
deriving Repr, Inhabited

/-- A moment, written with an offset or as universal time. -/
def Decoder.timestamp : Decoder Timestamp
  | depth, o => do
    match Timestamp.read (← Decoder.string depth o) with
    | some t => .ok t
    | none => .error .mismatched

namespace JobState

open Decoder

/-- A job state in JSON; only the status has to be there. -/
def decoder : Decoder JobState :=
  record
    [field "status" (choice JobStatus.names), field "job_id" (optional string),
      field "message" (optional string), field "started_at" (optional timestamp),
      field "completed_at" (optional timestamp), field "result" (optional members)]
    fun r => do
      let status ← r.required "status" (choice JobStatus.names)
      let jobId ← r.defaulted "job_id" (optional string) none
      let message ← r.defaulted "message" (optional string) none
      let startedAt ← r.defaulted "started_at" (optional timestamp) none
      let completedAt ← r.defaulted "completed_at" (optional timestamp) none
      let result ← r.defaulted "result" (optional members) none
      .ok { status, jobId, message, startedAt, completedAt, result }

/-- An optional moment in JSON. -/
def timeJson : Option Timestamp → Json
  | none => .null
  | some t => .string (String.ofList t.text)

/-- Optional members in JSON. -/
def resultJson : Option Members → Json
  | none => .null
  | some ms => .object ms

/-- The state as a JSON value. -/
def toJson (s : JobState) : Json :=
  .ofMembers [("status", .string s.status.name), ("job_id", .optString s.jobId),
    ("message", .optString s.message), ("started_at", timeJson s.startedAt),
    ("completed_at", timeJson s.completedAt), ("result", resultJson s.result)]

end JobState

/-- What the desk knows of the backend's job. -/
structure JobSnapshot where
  /-- The last state that was reported. -/
  job : Option JobState := none
  /-- The last attempt to learn the state failed. -/
  error : Bool := false
deriving Repr, Inhabited

namespace JobSnapshot

/-- The last state that was reported says that the job is running. -/
def isRunning (s : JobSnapshot) : Bool :=
  match s.job with
  | some job => job.status == .running
  | none => false

/-- The snapshot as a JSON value. -/
def toJson (s : JobSnapshot) : Json :=
  .ofMembers [("job", match s.job with
    | some job => job.toJson
    | none => .null), ("error", .bool s.error)]

end JobSnapshot

end Watchdesk
