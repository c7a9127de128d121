import Watchdesk.Desk.Answering
import Watchdesk.Desk.Serving
import Watchdesk.Desk.Turn

/-!
# The life of a desk

What may happen to a desk is an event, and every list of events is a run. Time passes and answers
come whenever they like, in any order; what is done at a time is done when its alarm is the first
on the agenda and due.
-/

namespace Watchdesk.Desk

/-- What may happen to a desk. -/
inductive Event where
  | subscribe (feed : Feed) (observer : Observer)
  | unsubscribe (feed : Feed) (id : Nat)
  | watch (number : Nat) (feed : Feed) (leaves : List Nat)
  | unwatch (number : Nat)
  | poll (feed : Feed) (caller : Option Caller)
  | run (caller : Caller) (jobId message : String) (starter : Starter)
  | reset
  | notify (notice : NewNotice)
  | dismiss (id : String)
  /-- The announcer of a guest is shown a snapshot. -/
  | guestObserves (snapshot : Snapshot)
  | requestExport (order : ExportOrder)
  | serve (caller : Caller) (taken : Option Nat)
  | shutDown
  | visit (caller : Caller) (request : InterfaceRequest)
  /-- Time passes. -/
  | pass (span : Nat)
  /-- The first work on the agenda is done if it is due. -/
  | ring
  /-- The first pause ends if its time has come. -/
  | resume
  | answer (ticket : Nat) (answer : Except Fault Reply)
  | settleSaving (ticket : Nat) (saved : Except Fault String)
  /-- The oldest thing that was handed out is taken away to be done. -/
  | handOut
  /-- The reports are read. -/
  | hear

/-- Do the first work on the agenda if it is due. -/
def ringNext (d : Desk) : Desk :=
  match d.agenda.takeDue d.now with
  | none => d
  | some (alarm, agenda) => { d with agenda }.ring alarm.key

/-- End the first pause if its time has come. -/
def resumeNext (d : Desk) : Desk :=
  match d.pauses with
  | [] => d
  | pause :: pauses => if pause.due ≤ d.now then { d with pauses }.resume pause.key else d

/-- What becomes of a desk. -/
def step (d : Desk) : Event → Desk
  | .subscribe feed observer => (d.subscribe feed observer).2
  | .unsubscribe feed id => d.unsubscribe feed id
  | .watch number feed leaves => d.watch number feed leaves
  | .unwatch number => d.unwatch number
  | .poll feed caller => d.poll feed caller
  | .run caller jobId message starter => d.run caller jobId message starter
  | .reset => d.reset
  | .notify notice => d.notify notice
  | .dismiss id => (d.dismiss id).2
  | .guestObserves snapshot => (d.guestObserves snapshot).2
  | .requestExport order => d.requestExport order
  | .serve caller taken => d.serve caller taken
  | .shutDown => d.shutDown
  | .visit caller request => d.visit caller request
  | .pass span => { d with agenda := { d.agenda with now := d.agenda.now + span } }
  | .ring => d.ringNext
  | .resume => d.resumeNext
  | .answer ticket answer => d.answer ticket answer
  | .settleSaving ticket saved => d.settleSaving ticket saved
  | .handOut => { d with outbox := d.outbox.tail }
  | .hear => { d with reports := [] }

/-- What becomes of a desk in the course of its life. -/
def live (d : Desk) (events : List Event) : Desk := events.foldl step d

@[simp] theorem live_nil (d : Desk) : d.live [] = d := rfl

@[simp] theorem live_cons (d : Desk) (event : Event) (events : List Event) :
    d.live (event :: events) = (d.step event).live events := rfl

theorem live_append (d : Desk) (first second : List Event) :
    d.live (first ++ second) = (d.live first).live second :=
  List.foldl_append

end Watchdesk.Desk
