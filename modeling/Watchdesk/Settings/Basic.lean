/-!
# Settings

What an operator can set: where the backend is, how often it is polled, how long notices stay up,
how much an export may hold, and whether the operator interface is offered. Every setting has a
default. Durations are in milliseconds. `Settings.complaint` names the first setting that makes
no sense.
-/

namespace Watchdesk

/-- Where the backend is, and how often a failed request is repeated. -/
structure BackendSettings where
  baseUrl : String := "http://localhost:8001"
  retries : Nat := 2
  retryDelay : Nat := 500
deriving DecidableEq, Repr, Inhabited

/-- How long to wait between two polls. -/
structure PollingSettings where
  jobRunning : Nat := 2000
  jobIdle : Nat := 10000
  health : Nat := 30000
deriving DecidableEq, Repr, Inhabited

/-- How a job that was started here is followed. -/
structure RunnerSettings where
  settleDelay : Nat := 500
  pollInterval : Nat := 2000
deriving DecidableEq, Repr, Inhabited

/-- How long notices stay up, and how many of them. -/
structure NoticeSettings where
  defaultDuration : Nat := 6000
  capacity : Nat := 5
deriving DecidableEq, Repr, Inhabited

/-- How exports are sized, and where their files go. -/
structure ExportSettings where
  batchSize : Nat := 1000
  maxRows : Nat := 10000
  outputDir : String := "."
deriving DecidableEq, Repr, Inhabited

/-- Whether the operator interface is offered, and on which port. -/
structure InterfaceSettings where
  enabled : Bool := true
  port : Nat := 11120
deriving DecidableEq, Repr, Inhabited

/-- The interface is to be offered on a port that is not free. Port 0 stands for any free port. -/
def InterfaceSettings.blocked (s : InterfaceSettings) (taken : Nat → Bool) : Bool :=
  s.enabled && s.port ≠ 0 && taken s.port

/-- All settings of a desk. -/
structure Settings where
  backend : BackendSettings := {}
  polling : PollingSettings := {}
  runner : RunnerSettings := {}
  notices : NoticeSettings := {}
  exports : ExportSettings := {}
  interface : InterfaceSettings := {}
deriving DecidableEq, Repr, Inhabited

namespace Settings

/-- The first setting that makes no sense: a batch without rows, a list without room for a notice,
or polls without a pause between them. -/
def complaint (s : Settings) : Option String :=
  if s.exports.batchSize = 0 then some "export.batch_size must be greater than zero"
  else if s.notices.capacity = 0 then some "notifications.capacity must be greater than zero"
  else if s.polling.jobRunning = 0 || s.polling.jobIdle = 0 || s.polling.health = 0
      || s.runner.pollInterval = 0 then
    some "polling intervals must be greater than zero"
  else none

/-- The durations in the order in which they are listed to an operator. -/
def durations (s : Settings) : List Nat :=
  [s.backend.retryDelay, s.polling.jobRunning, s.polling.jobIdle, s.polling.health,
    s.runner.settleDelay, s.runner.pollInterval, s.notices.defaultDuration]

end Settings

end Watchdesk
