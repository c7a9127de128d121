import Watchdesk.Desk.Answering
import Watchdesk.Desk.Serving
import Watchdesk.Desk.Turn
import Watchdesk.Export.Save
import Watchdesk.Rehearsal.Conversation

/-!
# The stage

A desk on a stage: a scripted backend answers its requests, a disk takes its files, and its clock
moves when it is told to. Answers that do not wait come at once, so that one thing that happens to
the desk is played to its end before the next one; files are saved when nothing else is left to
do.
-/

namespace Watchdesk.Rehearsal

/-- An answer that waits until it is released. -/
structure Held where
  line : Line
  ticket : Nat
  answer : Except Fault Reply

/-- A desk on a stage. -/
structure Stage where
  desk : Desk
  /-- The folder of the desk. -/
  root : String
  script : Script := {}
  disk : Disk := .ofSystem root
  /-- The answers that wait, the oldest first. -/
  held : List Held := []
  /-- The requests that were sent since the last step. -/
  sent : List Sent := []
  /-- The files that are to be saved when nothing else is left to do. -/
  saves : List (Nat × Export.Artifact) := []

namespace Stage

/-- Change the desk. -/
def act (s : Stage) (f : Desk → Desk) : Stage := { s with desk := f s.desk }

/-- Send a request: its answer comes at once, or waits. -/
def send (s : Stage) (ticket : Nat) (request : Request) : Stage :=
  let line := Line.ofRequest request
  let cue := s.script.cue line 0
  let answer := cue.answer.to request
  let sent : Stage := { s with
    script := s.script.drop line 1
    sent := s.sent ++ [Sent.mk s.desk.now request] }
  if cue.hold then { sent with held := s.held ++ [Held.mk line ticket answer] }
  else sent.act (·.answer ticket answer)

/-- Save a file. -/
def save (s : Stage) (ticket : Nat) (artifact : Export.Artifact) : Stage :=
  let folder := Disk.join s.root s.desk.settings.exports.outputDir
  let (disk, saved) := artifact.save folder s.disk
  { s with disk }.act (·.settleSaving ticket saved)

/-- How much can be handed out before a desk waits for something. An answer ends a call, uses up
one of its retries, or takes an export further by a row; and a total has 64 bits. -/
def patience (d : Desk) : Nat :=
  (d.calls.length + d.outbox.length + 1) * (d.settings.backend.retries + 2) * (2 ^ 64 + 4)

/-- Do what the desk hands out until it waits for something. -/
def workFor : Nat → Stage → Stage
  | 0, s => s
  | fuel + 1, s =>
    match s.desk.outbox with
    | [] => s
    | dispatch :: rest =>
      let s := s.act fun d => { d with outbox := rest }
      match dispatch with
      | .send ticket request => workFor fuel (s.send ticket request)
      | .save ticket artifact => workFor fuel { s with saves := s.saves ++ [(ticket, artifact)] }

/-- Do what the desk hands out until it waits for something. -/
def work (s : Stage) : Stage := s.workFor (patience s.desk)

/-- Save the files that are to be saved. -/
def saveAll (s : Stage) : Stage :=
  let saves := s.saves
  saves.foldl (fun s f => s.save f.1 f.2) { s with saves := [] }

/-- Do everything until the desk waits for time or for an answer. -/
def rest (s : Stage) : Stage := s.work.saveAll

/-- Something happens to the desk, and is played to its end. -/
def happen (s : Stage) (f : Desk → Desk) : Stage := (s.act f).rest

/-- Move the clock. -/
def moveTo (s : Stage) (time : Nat) : Stage :=
  s.act fun d => { d with agenda := { d.agenda with now := max d.now time } }

/-- The pauses that are over at a time end, one after another. -/
def endPauses (s : Stage) (time : Nat) : Stage :=
  let ended := s.desk.pauses.filter fun p => p.due ≤ time
  let s := s.act fun d => { d with pauses := d.pauses.filter fun p => time < p.due }
  (ended.foldl (fun s p => (s.act (·.resume p.key)).work) s).saveAll

/-- The first work on the agenda is done. -/
def ringNext (s : Stage) : Stage :=
  match s.desk.agenda.alarms with
  | [] => s
  | a :: rest =>
    (s.act fun d => { d with agenda := { d.agenda with alarms := rest } }).happen (·.ring a.key)

/-- What happens next, up to a time. -/
inductive Next where
  | pause (time : Nat)
  | alarm (time : Nat)
  | nothing
deriving DecidableEq, Repr

/-- What happens next: pauses end before work on the agenda that is due at the same time. -/
def next (d : Desk) (time : Nat) : Next :=
  match d.pauses, d.agenda.alarms with
  | [], [] => .nothing
  | p :: _, [] => if p.due ≤ time then .pause p.due else .nothing
  | [], a :: _ => if a.due ≤ time then .alarm a.due else .nothing
  | p :: _, a :: _ =>
    if p.due ≤ a.due then if p.due ≤ time then .pause p.due else .nothing
    else if a.due ≤ time then .alarm a.due else .nothing

/-- Let time pass up to a moment: `alarms` says how much work on the agenda may still be done, if
there is a limit to it, and `fuel` how often the clock may stop. When no more work may be done the
clock stands still. -/
def passFor (time : Nat) : Nat → Option Nat → Stage → Stage
  | 0, _, s => s
  | _, some 0, s => s
  | fuel + 1, alarms, s =>
    match next s.desk time with
    | .nothing => s.moveTo time
    | .pause due => passFor time fuel alarms ((s.moveTo due).endPauses due)
    | .alarm due => passFor time fuel (alarms.map (· - 1)) ((s.moveTo due).ringNext)

/-- Let time pass. Every stop of the clock does work on the agenda or uses up a retry. -/
def pass (s : Stage) (span : Nat) (limit : Option Nat) : Stage :=
  s.passFor (s.desk.now + span) ((limit.getD (2 ^ 64) + patience s.desk) * (span + 2)) limit

/-- The oldest answer that waits on a line, or on any, and the others. -/
def takeHeld (line : Option Line) : List Held → Option (Held × List Held)
  | [] => none
  | h :: hs =>
    if line.all (· = h.line) then some (h, hs)
    else (takeHeld line hs).map fun (found, others) => (found, h :: others)

/-- Release the oldest answer that waits on a line, or on any: whether there was one. -/
def release (s : Stage) (line : Option Line) : Bool × Stage :=
  match takeHeld line s.held with
  | none => (false, s)
  | some (h, held) => (true, { s with held }.happen (·.answer h.ticket h.answer))

end Stage

end Watchdesk.Rehearsal
