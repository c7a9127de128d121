import Watchdesk.Fault
import Watchdesk.Health
import Watchdesk.Job.State
import Watchdesk.Settings.Basic

/-!
# What is polled

A source says what is known before the first poll, what to make of a poll that failed, and how
long to wait until the next one. The desk polls two sources: the backend's job and its health.
-/

namespace Watchdesk

/-- Something that is polled. -/
structure Source (σ : Type) where
  name : String
  /-- What is known before the first poll. -/
  initial : σ
  /-- What is known after a poll that failed. -/
  degrade : σ → Fault → σ
  /-- How long to wait until the next poll. -/
  delay : σ → Nat

namespace Source

/-- What is known after a poll. -/
def commit {σ : Type} (source : Source σ) (current : σ) : Except Fault σ → σ
  | .ok next => next
  | .error fault => source.degrade current fault

/-- The backend's job: polled often while it runs. A failed poll keeps the last known state. -/
def job (settings : PollingSettings) : Source JobSnapshot where
  name := "job-status"
  initial := {}
  degrade := fun previous _ => { previous with error := true }
  delay := fun s => if s.isRunning then settings.jobRunning else settings.jobIdle

/-- The backend's health, polled at a fixed pace. -/
def health (settings : PollingSettings) : Source HealthState where
  name := "health"
  initial := .loading
  degrade := fun _ _ => .unreachable
  delay := fun _ => settings.health

end Source

end Watchdesk
