import Watchdesk.Backend.Request
import Watchdesk.Backend.Retry
import Watchdesk.Export.Run
import Watchdesk.Interface.Response
import Watchdesk.Polling.Source

/-!
# What a desk has to do and what it tells

A desk waits for three things: for the time of work that stands on its agenda, for answers of the
backend, and for files to be saved. A task says what is done with an answer when it comes; a
report tells those who asked, and those who watch.
-/

namespace Watchdesk

/-- The two stores of a desk. -/
inductive Feed where
  | job
  | health
deriving DecidableEq, Repr, Inhabited

/-- A snapshot of one of the stores. -/
inductive Snapshot where
  | job (s : JobSnapshot)
  | health (s : HealthState)
deriving Repr, Inhabited

namespace Feed

/-- What a store knows. -/
abbrev State : Feed → Type
  | .job => JobSnapshot
  | .health => HealthState

/-- What a store knows, as a snapshot. -/
def snapshot : (feed : Feed) → feed.State → Snapshot
  | .job => .job
  | .health => .health

/-- The source of a store. -/
def source (settings : PollingSettings) : (feed : Feed) → Source feed.State
  | .job => .job settings
  | .health => .health settings

/-- Where the backend is asked for a store. -/
def url (settings : BackendSettings) : Feed → String
  | .job => settings.jobUrl
  | .health => settings.healthUrl

/-- What a fetch for a store came to. -/
def read : (feed : Feed) → Except Fault String → Except Fault feed.State
  | .job, result => (readBody JobState.decoder result).map fun job => { job := some job }
  | .health, result => readBody HealthState.decoder result

end Feed

/-- What is done with the snapshots of a store. -/
inductive Observer where
  /-- The desk's own announcer of resolved jobs takes them in. -/
  | announcer
  /-- A second announcer, that of a guest, takes them in. -/
  | guest
  /-- Nothing; the store is only kept up to date. -/
  | keeper
  /-- A watch reports them, and after each lets the watches of a list go. -/
  | watch (number : Nat) (leaves : List Nat)
deriving DecidableEq, Repr, Inhabited

/-- Work on the agenda. -/
inductive Duty where
  /-- Poll a store. -/
  | poll (feed : Feed) (number : Nat)
  /-- Ask for the state of the runner's job. -/
  | question (epoch : Nat)
  /-- Remove a notice. -/
  | removal (notice : String)
deriving DecidableEq, Repr, Inhabited

/-- Who asked for something: by a number of their own, at the desk or through the interface. -/
inductive Caller where
  | operator (number : Nat)
  | page (number : Nat)
deriving DecidableEq, Repr, Inhabited

/-- An export that was asked for. -/
structure ExportOrder where
  caller : Caller
  selection : Selection
  confirm : Bool
deriving DecidableEq, Repr, Inhabited

/-- What is done with an answer. -/
inductive Task where
  /-- Settle a poll. -/
  | poll (feed : Feed) (caller : Option Caller)
  /-- Settle the start of a run. The answer may have to be a reply to a trigger. -/
  | start (epoch : Nat) (caller : Caller) (anyReply : Bool)
  /-- Settle a question for the state of the runner's job. -/
  | question (epoch : Nat)
  /-- Learn how many rows an export has. -/
  | probe (order : ExportOrder)
  /-- Take a batch of an export. -/
  | batch (order : ExportOrder) (run : Export.Run)
deriving Repr, Inhabited

/-- A request that has not been settled. -/
structure Call where
  ticket : Nat
  request : Request
  task : Task
  /-- How often the request was sent again. -/
  attempts : Nat := 0
deriving Repr, Inhabited

/-- A file that is being saved. -/
structure Saving where
  ticket : Nat
  order : ExportOrder
  artifact : Export.Artifact
  rows : Nat
  total : Nat
deriving Repr, Inhabited

/-- Something that a desk hands out to be done. -/
inductive Dispatch where
  /-- Send the request of a call. -/
  | send (ticket : Nat) (request : Request)
  /-- Save a file. -/
  | save (ticket : Nat) (artifact : Export.Artifact)
deriving Repr, Inhabited

/-- What a desk tells. -/
inductive Report where
  /-- A watch saw a snapshot. -/
  | seen (watch : Nat) (snapshot : Snapshot)
  /-- A poll that somebody asked for is over. -/
  | polled (caller : Caller) (feed : Feed)
  /-- The start of a job is over, or was refused. -/
  | started (caller : Caller) (accepted : Bool)
  /-- The runner's job succeeded. -/
  | succeeded (view : RunnerView)
  /-- An export is over. -/
  | exported (caller : Caller) (result : Except Fault Export.Report)
  /-- The service is over. -/
  | served (caller : Caller) (result : Except Fault Unit)
  /-- A request to the interface has its response. -/
  | answered (caller : Caller) (response : Response)

end Watchdesk
