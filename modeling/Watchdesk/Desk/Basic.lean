import Watchdesk.Backend.Retry
import Watchdesk.Desk.Task
import Watchdesk.Notice.Center
import Watchdesk.Polling.Store
import Watchdesk.Transition

/-!
# The desk

All parts of the service put together: the two stores, the runner, the list of notices, one
export at a time, and the agenda that they share. A desk is a value; everything that happens to it
is a function from desks to desks, which leaves what is to be done in `outbox` and what is to be
told in `reports`.
-/

namespace Watchdesk

/-- A watch that observes a store: its number, and who it is there. -/
structure Watch where
  number : Nat
  feed : Feed
  observer : Nat
deriving DecidableEq, Repr, Inhabited

/-- Somebody who serves until the desk is closed: the observers that they keep. -/
structure Shift where
  caller : Caller
  jobObserver : Nat
  healthObserver : Nat
deriving DecidableEq, Repr, Inhabited

/-- A desk. -/
structure Desk where
  settings : Settings
  /-- Somebody wants to know when the runner's job succeeds. -/
  hooked : Bool := false
  agenda : Agenda Duty := {}
  /-- Calls that pause before they are sent again, by ticket, in the order of their times. -/
  pauses : List (Alarm Nat) := []
  center : Center
  jobs : Store JobSnapshot Observer
  health : Store HealthState Observer
  runner : Runner := {}
  announcer : Announcer := {}
  /-- The announcer of a guest. -/
  guest : Announcer := {}
  watches : List Watch := []
  shifts : List Shift := []
  calls : List Call := []
  savings : List Saving := []
  /-- How many tickets were given out. -/
  tickets : Nat := 0
  /-- An export is under way. -/
  exporting : Bool := false
  progress : Option Export.Progress := none
  /-- The desk is closed: those who serve go, and no export fetches anything more. -/
  closed : Bool := false
  outbox : List Dispatch := []
  reports : List Report := []

namespace Desk

/-- A desk at which nothing has happened yet. -/
def ofSettings (settings : Settings) (hooked : Bool) : Desk where
  settings
  hooked
  center := .ofSettings settings.notices
  jobs := .ofSource (.job settings.polling)
  health := .ofSource (.health settings.polling)

/-- The time. -/
def now (d : Desk) : Nat := d.agenda.now

/-- Tell something. -/
def tell (d : Desk) (r : Report) : Desk := { d with reports := d.reports ++ [r] }

/-- Give orders to the agenda. -/
def order {κ : Type} (d : Desk) (duty : κ → Duty) (orders : List (Order κ)) : Desk :=
  { d with agenda := d.agenda.obeyAll (orders.map (Order.map duty)) }

/-- Publish a notice: its id. -/
def publish (d : Desk) (n : NewNotice) : String × Desk :=
  let (id, center, orders) := d.center.publish d.now n
  (id, { d with center }.order .removal orders)

/-- Publish a notice. -/
def notify (d : Desk) (n : NewNotice) : Desk := (d.publish n).2

/-- Publish notices, one after another. -/
def notifyAll (d : Desk) (ns : List NewNotice) : Desk := ns.foldl notify d

/-- Remove a notice: whether it was there. -/
def dismiss (d : Desk) (id : String) : Bool × Desk :=
  let (found, center, orders) := d.center.dismiss id
  (found, { d with center }.order .removal orders)

/-- One of the stores. -/
def store (d : Desk) : (feed : Feed) → Store feed.State Observer
  | .job => d.jobs
  | .health => d.health

/-- A desk with another store in the place of one. -/
def withStore (d : Desk) : (feed : Feed) → Store feed.State Observer → Desk
  | .job, jobs => { d with jobs }
  | .health, health => { d with health }

/-- A desk after an operation of one of the stores, which gave orders. -/
def follow (d : Desk) (feed : Feed) (change : Store feed.State Observer × List (Order Nat)) :
    Desk :=
  (d.withStore feed change.1).order (.poll feed) change.2

/-- Have a store observed: the number of the observer. -/
def subscribe (d : Desk) (feed : Feed) (observer : Observer) : Nat × Desk :=
  let (id, change) := (d.store feed).subscribe observer
  (id, d.follow feed change)

/-- Let an observer go. -/
def unsubscribe (d : Desk) (feed : Feed) (id : Nat) : Desk :=
  d.follow feed ((d.store feed).unsubscribe id)

/-- Set up a watch under a number of its own. -/
def watch (d : Desk) (number : Nat) (feed : Feed) (leaves : List Nat) : Desk :=
  let (observer, d) := d.subscribe feed (.watch number leaves)
  { d with watches := d.watches ++ [{ number, feed, observer }] }

/-- Let a watch go, if it is there. -/
def unwatch (d : Desk) (number : Nat) : Desk :=
  match d.watches.find? fun w => w.number == number with
  | none => d
  | some w =>
    { d with watches := d.watches.filter fun w => w.number ≠ number }.unsubscribe w.feed w.observer

/-- Open a call: send its request, and remember what is done with the answer. -/
def call (d : Desk) (request : Request) (task : Task) : Desk :=
  let ticket := d.tickets + 1
  { d with
    tickets := ticket
    calls := d.calls ++ [{ ticket, request, task }]
    outbox := d.outbox ++ [.send ticket request] }

/-- Forget a call. -/
def forget (d : Desk) (ticket : Nat) : Desk :=
  { d with calls := d.calls.filter fun c => c.ticket ≠ ticket }

end Desk

end Watchdesk
