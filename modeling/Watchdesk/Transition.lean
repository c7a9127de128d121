import Watchdesk.Job.State
import Watchdesk.Notice.Basic

/-!
# Resolved jobs

A job is resolved when it was running and then, under the same id, has completed or failed. An
observer of the job store remembers the last state that was reported, and publishes one notice for
each job that it sees resolved.
-/

namespace Watchdesk

/-- What is remembered of a job: its status and its id. -/
structure Observation where
  status : JobStatus
  jobId : Option String
deriving DecidableEq, Repr, Inhabited

/-- A job that was resolved, by its id. -/
inductive Resolution where
  | completed (jobId : Option String)
  | failed (jobId : Option String)
deriving DecidableEq, Repr

namespace Resolution

/-- The resolution between two observations. -/
def detect : Option Observation → Observation → Option Resolution
  | none, _ => none
  | some previous, current =>
    if previous.status ≠ .running ∨ previous.jobId ≠ current.jobId then none
    else
      match current.status with
      | .completed => some (.completed current.jobId)
      | .failed => some (.failed current.jobId)
      | .idle | .running => none

/-- The notice of a resolution: the job's own message, or a sentence about its id. -/
def notice (r : Resolution) (message : Option String) : NewNotice :=
  match r with
  | .completed id =>
    { variant := .success, title := "Job completed",
      description := some (message.getD (id.getD "job" ++ " finished")), duration := .persistent }
  | .failed id =>
    { variant := .error, title := "Job failed",
      description := some (message.getD (id.getD "job" ++ " failed")), duration := .persistent }

end Resolution

/-- What an observer of the job store remembers. -/
structure Announcer where
  previous : Option Observation := none
deriving DecidableEq, Repr, Inhabited

namespace Announcer

/-- Take in a snapshot: the resolution that it shows, with its notice. -/
def observe (a : Announcer) (snapshot : JobSnapshot) :
    Announcer × Option (Resolution × NewNotice) :=
  match snapshot.job with
  | none => (a, none)
  | some job =>
    let current : Observation := ⟨job.status, job.jobId⟩
    (⟨some current⟩,
      (Resolution.detect a.previous current).map fun r => (r, r.notice job.message))

end Announcer

end Watchdesk
