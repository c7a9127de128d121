import Watchdesk.Export.Outcome
import Watchdesk.Export.Plan
import Watchdesk.Table.Csv

/-!
# Running an export

A run gathers records, one batch after another, until it has as many as its job asks for or a
batch comes back empty; then it makes the file. Between any two batches it stops if it was
cancelled. `Run.turn` and `Run.receive` are the two halves of a step: what the run wants next, and
what it makes of a batch.

`execute` plays a whole run against a source of batches that may fail, may be cancelled at any
moment, and may hand out batches of any size.
-/

namespace Watchdesk.Export

/-- A run: its job, and the records that it has gathered. -/
structure Run where
  job : Job
  records : List (List String) := []
deriving DecidableEq, Repr, Inhabited

/-- What a run wants next. -/
inductive Turn where
  /-- A batch. -/
  | ask (offset limit : Nat)
  /-- To make the file. -/
  | finish
  /-- Nothing, because it was cancelled. -/
  | stop
deriving DecidableEq, Repr

namespace Run

/-- How many records the run has. -/
def offset (r : Run) : Nat := r.records.length

/-- How many records the next batch may bring. -/
def limit (r : Run) : Nat := min r.job.batchSize (r.job.exportTotal - r.offset)

/-- How far the run has come. -/
def progress (r : Run) (stage : Stage) : Progress := ⟨r.offset, r.job.exportTotal, stage⟩

/-- What the run wants next. -/
def turn (r : Run) (cancelled : Bool) : Turn :=
  if r.offset < r.job.exportTotal then
    if cancelled then .stop else .ask r.offset r.limit
  else .finish

/-- The run with one more batch. -/
def gather (r : Run) (batch : List (List String)) : Run :=
  { r with records := r.records ++ batch }

/-- The outcome of a run that has all that it will get. -/
def finish (r : Run) (header : List String) (fileName : String) : Outcome :=
  if r.records.isEmpty then .empty
  else
    .written ⟨fileName, String.ofList (Csv.document header r.records)⟩ r.offset r.job.total

/-- The report before the file is made, if one is made. -/
def finishReports (r : Run) : List Progress :=
  if r.records.isEmpty then [] else [r.progress .building]

/-- What a run makes of a batch. -/
inductive Received where
  /-- It was cancelled, and drops the batch. -/
  | dropped
  /-- There is nothing more to fetch. -/
  | exhausted
  /-- It has come further. -/
  | gathered (next : Run)
deriving DecidableEq, Repr

/-- Take a batch. -/
def receive (r : Run) (cancelled : Bool) (batch : List (List String)) : Received :=
  if cancelled then .dropped
  else if batch.isEmpty then .exhausted
  else .gathered (r.gather batch)

/-- A run that wants a batch does not have all records yet. -/
theorem offset_lt_of_turn {r : Run} {cancelled : Bool} {offset limit : Nat}
    (h : r.turn cancelled = .ask offset limit) : r.offset < r.job.exportTotal := by
  unfold turn at h
  split at h
  · assumption
  · cases h

/-- A run that has come further has gathered a batch with records. -/
theorem eq_gather_of_receive {r next : Run} {cancelled : Bool} {batch : List (List String)}
    (h : r.receive cancelled batch = .gathered next) : next = r.gather batch ∧ batch ≠ [] := by
  unfold receive at h
  split at h
  · cases h
  · split at h
    · cases h
    · next some =>
      cases h
      exact ⟨rfl, by simpa using some⟩

theorem offset_gather (r : Run) (batch : List (List String)) :
    (r.gather batch).offset = r.offset + batch.length :=
  List.length_append

theorem offset_lt_of_receive {r next : Run} {cancelled : Bool} {batch : List (List String)}
    (h : r.receive cancelled batch = .gathered next) : r.offset < next.offset := by
  obtain ⟨rfl, some⟩ := eq_gather_of_receive h
  have positive := List.length_pos_iff.mpr some
  rw [offset_gather]
  omega

/-- A run keeps its job. -/
theorem job_of_receive {r next : Run} {cancelled : Bool} {batch : List (List String)}
    (h : r.receive cancelled batch = .gathered next) : next.job = r.job := by
  obtain ⟨rfl, -⟩ := eq_gather_of_receive h
  rfl

end Run

/-- A source of batches, and the moments at which the run is cancelled. Batches and reports are
counted from one. -/
structure Conditions where
  /-- The batch that a request gets, by its number, offset and limit. -/
  fetch : Nat → Nat → Nat → Except Fault (List (List String))
  /-- The run is cancelled before it starts. -/
  cancelledBefore : Bool := false
  /-- The run is cancelled while a request is under way. -/
  cancelledInFetch : Nat → Bool := fun _ => false
  /-- The run is cancelled while a report is made. -/
  cancelledInReport : Nat → Bool := fun _ => false

/-- What a whole run did. -/
structure Trace where
  /-- The requests, by offset and limit. -/
  requests : List (Nat × Nat) := []
  reports : List Progress := []
  result : Except Fault Outcome

/-- A trace with a request in front. -/
def Trace.asked (t : Trace) (offset limit : Nat) : Trace :=
  { t with requests := (offset, limit) :: t.requests }

/-- A trace with reports in front. -/
def Trace.reported (t : Trace) (reports : List Progress) : Trace :=
  { t with reports := reports ++ t.reports }

/-- The end of a run that has all that it will get. -/
def Run.conclude (r : Run) (header : List String) (fileName : String) : Trace where
  reports := r.finishReports
  result := .ok (r.finish header fileName)

/-- Play a run to its end, after `fetches` requests and `reports` reports. Every batch that does
not end the run brings it closer to its total. -/
def play (c : Conditions) (header : List String) (fileName : String) (r : Run)
    (cancelled : Bool) (fetches reports : Nat) : Trace :=
  match _turn : r.turn cancelled with
  | .stop => { result := .ok .cancelled }
  | .finish => r.conclude header fileName
  | .ask offset limit =>
    match c.fetch (fetches + 1) offset limit with
    | .error fault => { requests := [(offset, limit)], result := .error fault }
    | .ok batch =>
      match _received : r.receive (c.cancelledInFetch (fetches + 1)) batch with
      | .dropped => { requests := [(offset, limit)], result := .ok .cancelled }
      | .exhausted => (r.conclude header fileName).asked offset limit
      | .gathered next =>
        ((play c header fileName next (c.cancelledInReport (reports + 1)) (fetches + 1)
          (reports + 1)).reported [next.progress .fetching]).asked offset limit
termination_by r.job.exportTotal - r.offset
decreasing_by
  have asked := Run.offset_lt_of_turn _turn
  have gained := Run.offset_lt_of_receive _received
  rw [Run.job_of_receive _received]
  omega

/-- Play a whole run of a job. -/
def execute (c : Conditions) (job : Job) (header : List String) (fileName : String) : Trace :=
  let r : Run := { job }
  (play c header fileName r (c.cancelledBefore || c.cancelledInReport 1) 0 1).reported
    [r.progress .fetching]

end Watchdesk.Export
