import Watchdesk.Desk.Basic

/-!
# Watching

How a desk polls its stores: starting a poll, settling it, and handing the new snapshot to those
who observe the store at that moment, one after another. What an observer does may make other
observers go, but does not keep them from getting this snapshot.
-/

namespace Watchdesk.Desk

/-- An announcer takes in a snapshot: what it remembers, and what it has to say. -/
def announce (d : Desk) (a : Announcer) (s : Snapshot) :
    Announcer × Option Resolution × Desk :=
  match s with
  | .health _ => (a, none, d)
  | .job s =>
    match a.observe s with
    | (a, none) => (a, none, d)
    | (a, some (r, n)) => (a, some r, d.notify n)

/-- The guest's announcer takes in a snapshot: the resolution that it sees. -/
def guestObserves (d : Desk) (s : Snapshot) : Option Resolution × Desk :=
  let (guest, seen, d) := d.announce d.guest s
  (seen, { d with guest })

/-- An observer gets a snapshot. -/
def deliver (d : Desk) (s : Snapshot) (observer : Observer) : Desk :=
  match observer with
  | .keeper => d
  | .announcer =>
    let (announcer, _, d) := d.announce d.announcer s
    { d with announcer }
  | .guest => (d.guestObserves s).2
  | .watch number leaves => leaves.foldl unwatch (d.tell (.seen number s))

/-- All observers of a moment get a snapshot, in the order in which they came. -/
def deliverAll (d : Desk) (s : Snapshot) (observers : List (Nat × Observer)) : Desk :=
  observers.foldl (fun d o => d.deliver s o.2) d

/-- Tell the caller of a poll that it is over. -/
def tellPolled (d : Desk) (caller : Option Caller) (feed : Feed) : Desk :=
  match caller with
  | some c => d.tell (.polled c feed)
  | none => d

/-- Poll a store, unless a poll is under way. -/
def poll (d : Desk) (feed : Feed) (caller : Option Caller) : Desk :=
  match (d.store feed).startPoll with
  | none => d.tellPolled caller feed
  | some store =>
    (d.withStore feed store).call (.get (feed.url d.settings.backend)) (.poll feed caller)

/-- A poll of a store has settled. Whoever observes the store when it settles gets the snapshot. -/
def settleStore (d : Desk) (feed : Feed) (outcome : Except Fault feed.State) : Desk :=
  let source := feed.source d.settings.polling
  let store := (d.store feed).settle source outcome
  let d := (d.withStore feed store).deliverAll (feed.snapshot store.snapshot) store.observers
  d.follow feed ((d.store feed).rearm source store.snapshot)

/-- A poll has settled with the body of a reply, or a fault. -/
def settlePoll (d : Desk) (feed : Feed) (caller : Option Caller)
    (result : Except Fault String) : Desk :=
  (d.settleStore feed (feed.read result)).tellPolled caller feed

end Watchdesk.Desk
