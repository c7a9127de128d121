import Watchdesk.Desk.Description
import Watchdesk.Rehearsal.Stage
import Watchdesk.Settings.File

/-!
# Rehearsals

A rehearsal is a list of steps that are played on a stage, each to its end. A step has a result at
once; what it brings about later is reported under its number. Notices go by the labels `n1`,
`n2` and so on, in the order in which they are first seen.
-/

namespace Watchdesk.Rehearsal

/-- A step of a rehearsal. -/
inductive Step where
  /-- Let time pass. -/
  | advance (span : Nat)
  /-- Give the script other cues on a line. -/
  | script (line : Line) (cues : List Cue)
  /-- Release an answer. -/
  | release (line : Option Line)
  /-- Set up a watch. -/
  | subscribe (feed : Feed) (leaves : List Nat)
  /-- Let a watch go. -/
  | unsubscribe (watch : Nat)
  | poll (feed : Feed)
  | run (jobId message : String) (starter : Desk.Starter)
  /-- Start a kind of job, if it could be read. -/
  | runKind (kind : Option JobKind)
  | reset
  | notify (notice : NewNotice)
  /-- Remove a notice by its label, or by any other name. -/
  | dismiss (name : String)
  /-- Show a snapshot to the guest's announcer. -/
  | snapshot (snapshot : JobSnapshot)
  /-- Have the guest's announcer observe the job, in place of the observer that it has. -/
  | attach
  | detach
  /-- Observe both stores, in place of the observers that there are. -/
  | observe
  | unobserve
  | export (selection : Selection) (confirm : Bool)
  /-- Serve; a port may be taken. -/
  | serve (taken : Option Nat)
  | shutDown
  | visit (request : InterfaceRequest)
  | makeFile (path text : String)
  | describe

/-- What a step gives back at once. -/
inductive Result where
  | nothing
  | flag (b : Bool)
  | label (s : String)
  | watch (number : Nat)
  | resolution (r : Option Resolution)
  /-- The step could not be read. -/
  | unreadable
  /-- The descriptions of the parts, and of the whole with its capacity for notices. -/
  | described (parts : List String) (whole : Option (String × Nat))

/-- A rehearsal that goes on. -/
structure Session where
  stage : Stage
  /-- The desk is a whole, and not only its parts. -/
  whole : Bool
  /-- How much work on the agenda is done in one step at most. -/
  alarmLimit : Nat := 500
  /-- How many steps were played. -/
  steps : Nat := 0
  /-- How many watches were set up. -/
  watches : Nat := 0
  /-- The observer of the guest's announcer. -/
  guest : Option Nat := none
  /-- The observers of both stores. -/
  observers : Option (Nat × Nat) := none
  /-- The labels of notices, by id. -/
  labels : List (String × String) := []
  /-- The revision of the runner's view that was shown last. -/
  shown : Nat := 0

namespace Session

/-- The desk. -/
def desk (s : Session) : Desk := s.stage.desk

/-- Something happens to the desk. -/
def happen (s : Session) (f : Desk → Desk) : Session := { s with stage := s.stage.happen f }

/-- Give a notice a label, unless it has one. -/
def label (s : Session) (id : String) : Session :=
  if (s.labels.lookup id).isSome then s
  else { s with labels := s.labels ++ [(id, "n" ++ toString (s.labels.length + 1))] }

/-- Give labels to all notices that can be seen, the oldest first. -/
def labelAll (s : Session) : Session :=
  (s.desk.center.notices.reverse.map Notice.id).foldl label s

/-- The label of a notice. -/
def labelOf (s : Session) (id : String) : String := (s.labels.lookup id).getD id

/-- The id of the notice with a label, or the label itself if there is none. -/
def idOf (s : Session) (label : String) : String :=
  match s.labels.find? fun l => l.2 == label with
  | some (id, _) => id
  | none => label

/-- An address with the id of a notice in place of the label behind `@`. -/
def resolve (s : Session) (uri : String) : String :=
  let (lead, label) := uri.toList.span (· ≠ '@')
  match label with
  | [] => uri
  | _ :: label => String.ofList lead ++ s.idOf (String.ofList label)

/-- Play a step: what it gives back at once. -/
def perform (s : Session) (step : Step) : Result × Session :=
  let caller := Caller.operator s.steps
  match step with
  | .advance span => (.nothing, { s with stage := s.stage.pass span (some s.alarmLimit) })
  | .script line cues =>
    (.nothing, { s with stage := { s.stage with script := s.stage.script.set line cues } })
  | .release line =>
    let (found, stage) := s.stage.release line
    (.flag found, { s with stage })
  | .subscribe feed leaves =>
    (.watch s.watches,
      { s with watches := s.watches + 1 }.happen (·.watch s.watches feed leaves))
  | .unsubscribe number =>
    let held := s.desk.watches.any fun w => w.number == number
    (.flag held, s.happen (·.unwatch number))
  | .poll feed => (.nothing, s.happen (·.poll feed (some caller)))
  | .run jobId message starter => (.nothing, s.happen (·.run caller jobId message starter))
  | .runKind none => (.unreadable, s)
  | .runKind (some kind) => (.nothing, s.happen (·.runKind caller kind))
  | .reset => (.nothing, s.happen Desk.reset)
  | .notify notice =>
    let (id, _) := s.desk.publish notice
    let s := (s.happen (·.notify notice)).label id
    (.label (s.labelOf id), s)
  | .dismiss name =>
    let id := s.idOf name
    (.flag (s.desk.dismiss id).1, s.happen fun d => (d.dismiss id).2)
  | .snapshot snapshot =>
    let (seen, _) := s.desk.guestObserves (.job snapshot)
    (.resolution seen, s.happen fun d => (d.guestObserves (.job snapshot)).2)
  | .attach =>
    let (observer, desk) := s.desk.subscribe .job .guest
    let desk := match s.guest with
      | some old => desk.unsubscribe .job old
      | none => desk
    (.nothing, { s with guest := some observer }.happen fun _ => desk)
  | .detach =>
    match s.guest with
    | some old => (.nothing, { s with guest := none }.happen (·.unsubscribe .job old))
    | none => (.nothing, s)
  | .makeFile path text =>
    let file := Disk.join s.stage.root path
    (.nothing, { s with stage := { s.stage with disk := s.stage.disk.provideFile file text } })
  | .describe =>
    let whole := if s.whole then some (s.desk.description, s.desk.settings.notices.capacity)
      else none
    (.described s.desk.partDescriptions whole, s)
  | .observe =>
    if !s.whole then (.nothing, s) else
    let (jobObserver, healthObserver, desk) := s.desk.observe
    let desk := match s.observers with
      | some (job, health) => desk.unobserve job health
      | none => desk
    (.nothing, { s with observers := some (jobObserver, healthObserver) }.happen fun _ => desk)
  | .unobserve =>
    match s.observers with
    | some (job, health) => (.nothing, { s with observers := none }.happen (·.unobserve job health))
    | none => (.nothing, s)
  | .export selection confirm =>
    if s.whole then (.nothing, s.happen (·.requestExport { caller, selection, confirm }))
    else (.nothing, s)
  | .serve taken => (.nothing, if s.whole then s.happen (·.serve caller taken) else s)
  | .shutDown => (.nothing, if s.whole then s.happen Desk.shutDown else s)
  | .visit request =>
    if s.whole then
      let request := { request with uri := s.resolve request.uri }
      (.nothing, s.happen (·.visit (.page s.steps) request))
    else (.nothing, s)

/-- What a step brought about: its result, what was told, and what was sent. -/
structure Outcome where
  result : Result
  reports : List Report
  sent : List Sent

/-- Play the next step. -/
def play (s : Session) (step : Step) : Outcome × Session :=
  let (result, s) := s.perform step
  let s := s.labelAll
  let outcome : Outcome := { result, reports := s.desk.reports, sent := s.stage.sent }
  let stage := { s.stage with sent := [] }.act fun d => { d with reports := [] }
  (outcome, { s with stage, steps := s.steps + 1 })

/-- Begin a rehearsal with a script; files go into a folder. -/
def begin (settings : Settings) (hooked whole : Bool) (script : Script) (root : String) :
    Session where
  stage := { desk := .ofSettings settings hooked, script, root }
  whole

/-- Begin a rehearsal of a desk as a whole, whose settings have to make sense. -/
def assemble (settings : Settings) (script : Script) (root : String) :
    Except Fault Session := do
  let settings ← settings.checked
  .ok (begin settings false true script root)

/-- The runner's view was written since it was shown last. -/
def changed (s : Session) : Bool := s.desk.runner.revision ≠ s.shown

/-- The runner's view is shown. -/
def markShown (s : Session) : Session := { s with shown := s.desk.runner.revision }

end Session

end Watchdesk.Rehearsal
