import Watchdesk.Clock.Agenda
import Watchdesk.Fault
import Watchdesk.Job.State
import Watchdesk.Settings.Basic

/-!
# The job runner

The runner starts one job and then asks the backend for the state of its job until that state is
no longer running. Each run has an epoch; a reset and a new run begin a new one. Whatever belongs
to an earlier epoch finds that out when it settles, and has no effect.

Every operation gives back the runner and its orders to the agenda, where the next question stands
under the epoch of the run that asks.
-/

namespace Watchdesk

/-- What the runner is doing. -/
inductive RunnerStatus where
  | idle
  | running
  | success
  | error
deriving DecidableEq, Repr, Inhabited

/-- The name of a status. -/
def RunnerStatus.name : RunnerStatus → String
  | .idle => "idle"
  | .running => "running"
  | .success => "success"
  | .error => "error"

/-- What the runner shows. -/
structure RunnerView where
  status : RunnerStatus := .idle
  message : String := ""
  jobId : Option String := none
  result : Option Members := none
  /-- The start of the job or the questions after it are under way. -/
  loading : Bool := false
deriving Repr, Inhabited

/-- The view as a JSON value. -/
def RunnerView.toJson (v : RunnerView) : Json :=
  .ofMembers [("status", .string v.status.name), ("message", .string v.message),
    ("job_id", .optString v.jobId), ("result", JobState.resultJson v.result),
    ("loading", .bool v.loading)]

/-- A runner. -/
structure Runner where
  view : RunnerView := {}
  /-- How often the view was written. -/
  revision : Nat := 0
  epoch : Nat := 0
  /-- The question that is on the agenda, by the epoch of its run. -/
  timer : Option Nat := none
deriving Repr, Inhabited

namespace Runner

/-- Write the view. -/
def write (r : Runner) (view : RunnerView) : Runner :=
  { r with view, revision := r.revision + 1 }

/-- The orders that strike off what is on the agenda. -/
def release (r : Runner) : List (Order Nat) := r.timer.toList.map Order.cancel

/-- Put the next question on the agenda. -/
def arm (r : Runner) (delay : Nat) : Runner × List (Order Nat) :=
  ({ r with timer := some r.epoch }, [.schedule r.epoch delay])

/-- Begin a run, unless one is under way. The new runner's epoch is that of the run. -/
def begin (r : Runner) (jobId message : String) : Option (Runner × List (Order Nat)) :=
  if r.view.status = .running then none
  else
    let next := { r with epoch := r.epoch + 1, timer := none }
    some (next.write { status := .running, message, jobId := some jobId, loading := true },
      r.release)

/-- Give up whatever is under way. -/
def reset (r : Runner) : Runner × List (Order Nat) :=
  let next := { r with epoch := r.epoch + 1, timer := none }
  (next.write {}, r.release)

/-- The start of a run has settled. -/
def started {α : Type} (r : Runner) (settings : RunnerSettings) (epoch : Nat) :
    Except Fault α → Runner × List (Order Nat)
  | .ok _ => if r.epoch = epoch then r.arm settings.settleDelay else (r, [])
  | .error fault =>
    if r.epoch = epoch then
      let view := { r.view with
        status := .error, message := fault.message "Failed to start job", loading := false }
      ({ r with timer := none }.write view, [])
    else (r, [])

/-- A question that was on the agenda is due; there is none if its run is over. -/
def fire (r : Runner) (epoch : Nat) : Option Runner :=
  if r.epoch = epoch then some { r with timer := none } else none

/-- The message of a state, if it says anything. -/
def wording (state : JobState) (fallback : String) : String :=
  match state.message with
  | some m => if m = "" then fallback else m
  | none => fallback

/-- The view after a state of a job that is over, or of no job. -/
def resolved (v : RunnerView) (state : JobState) : RunnerView :=
  match state.status with
  | .running => v
  | .completed =>
    { v with status := .success, message := wording state "Job completed", jobId := state.jobId,
             result := state.result, loading := false }
  | .failed =>
    { v with status := .error, message := wording state "Job failed", jobId := state.jobId,
             result := state.result, loading := false }
  | .idle =>
    { v with status := .idle, message := wording state "", jobId := state.jobId,
             result := state.result, loading := false }

/-- The backend has answered a question, or not. -/
def answered (r : Runner) (settings : RunnerSettings) (epoch : Nat) :
    Except Fault JobState → Runner × List (Order Nat)
  | .error _ =>
    if r.epoch = epoch then
      let view := { r.view with
        status := .error, message := "Failed to fetch job status", loading := false }
      ({ r with timer := none }.write view, [])
    else (r, [])
  | .ok state =>
    if r.epoch ≠ epoch then (r, [])
    else if state.status = .running then
      let view := { r.view with
        status := .running, message := wording state "Job is running", jobId := state.jobId }
      (r.write view).arm settings.pollInterval
    else ({ r with timer := none }.write (resolved r.view state), [])

/-- An answer tells of the success of the run that asked. -/
def succeeds (r : Runner) (epoch : Nat) : Except Fault JobState → Bool
  | .ok state => r.epoch = epoch && state.status == .completed
  | .error _ => false

/-- A question is on the agenda. -/
def pending (r : Runner) : Bool := r.timer.isSome

end Runner

end Watchdesk
