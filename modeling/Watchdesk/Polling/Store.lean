import Watchdesk.Clock.Agenda
import Watchdesk.Polling.Source

/-!
# Polling stores

A store holds the last snapshot of a source. It polls only while somebody observes it: the first
observer has it polled at once, each poll puts the next one on the agenda, and the last observer
who leaves strikes it off. No two polls overlap.

Every operation gives back the store and its orders to the agenda. Polls stand on the agenda under
a number of their own.
-/

namespace Watchdesk

/-- The last snapshot of a source, and those who observe it. -/
structure Store (σ ω : Type) where
  snapshot : σ
  /-- The number of the next observer. -/
  nextId : Nat := 0
  /-- The observers by number, in the order in which they came. -/
  observers : List (Nat × ω) := []
  /-- The poll that is on the agenda. -/
  timer : Option Nat := none
  /-- How many polls were ever put on the agenda. -/
  sequence : Nat := 0
  /-- A poll is under way. -/
  busy : Bool := false
deriving Repr, Inhabited

namespace Store

variable {σ ω : Type}

/-- A store that nobody has observed yet. -/
def ofSource (source : Source σ) : Store σ ω := { snapshot := source.initial }

/-- Put a poll on the agenda, in place of the one that is there. -/
def arm (s : Store σ ω) (delay : Nat) : Store σ ω × List (Order Nat) :=
  let number := s.sequence + 1
  let replaced := s.timer.toList.map Order.cancel
  ({ s with timer := some number, sequence := number }, .schedule number delay :: replaced)

/-- Take in an observer: its number, and a poll at once if it is the only one. -/
def subscribe (s : Store σ ω) (observer : ω) : Nat × Store σ ω × List (Order Nat) :=
  let joined :=
    { s with nextId := s.nextId + 1, observers := s.observers ++ [(s.nextId, observer)] }
  if joined.observers.length = 1 then
    let (armed, orders) := joined.arm 0
    (s.nextId, armed, orders)
  else (s.nextId, joined, [])

/-- Let an observer go; without observers no poll stays on the agenda. -/
def unsubscribe (s : Store σ ω) (id : Nat) : Store σ ω × List (Order Nat) :=
  let left := { s with observers := s.observers.filter fun o => o.1 ≠ id }
  if left.observers.isEmpty then
    ({ left with timer := none }, s.timer.toList.map Order.cancel)
  else (left, [])

/-- A poll that was on the agenda is due now. -/
def fire (s : Store σ ω) (number : Nat) : Store σ ω :=
  if s.timer = some number then { s with timer := none } else s

/-- Start a poll, unless one is under way. -/
def startPoll (s : Store σ ω) : Option (Store σ ω) :=
  if s.busy then none else some { s with busy := true }

/-- A poll has settled: the snapshot that it leaves. -/
def settle (s : Store σ ω) (source : Source σ) (outcome : Except Fault σ) : Store σ ω :=
  { s with snapshot := source.commit s.snapshot outcome, busy := false }

/-- Put the poll that follows a snapshot on the agenda, if somebody still observes. -/
def rearm (s : Store σ ω) (source : Source σ) (snapshot : σ) : Store σ ω × List (Order Nat) :=
  if s.observers.isEmpty then (s, []) else s.arm (source.delay snapshot)

/-- A poll is on the agenda. -/
def pending (s : Store σ ω) : Bool := s.timer.isSome

end Store

end Watchdesk
