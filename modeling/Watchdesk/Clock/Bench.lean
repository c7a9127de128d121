import Watchdesk.Clock.Agenda
import Watchdesk.Clock.Sleep

/-!
# A bench of timers

Timers by number, each with a task that takes some time once it has started. A timer that is
cancelled before it is due never starts; one that has started finishes, whatever happens. Timers,
tasks and the bench itself sleep while they wait.

A bench keeps time for a desk as an agenda asks for it, on a clock that can be told to sleep. It
shows what an agenda leaves out: tasks that take time, and delays that are longer than the clock
can sleep (`sleepFor`), for which the work is done too early.
-/

namespace Watchdesk

/-- A timer of a bench. -/
structure BenchTimer where
  /-- How long its task takes. -/
  takes : Nat
  cancelled : Bool := false
deriving DecidableEq, Repr, Inhabited

/-- A bench: all timers by number, those that are to start, and the tasks that run. -/
structure Bench where
  agenda : Agenda Nat := {}
  timers : List BenchTimer := []
  /-- The tasks that run: when each of them finishes, and the number of its timer. -/
  running : List (Nat × Nat) := []
deriving Repr, Inhabited

namespace Bench

/-- Set a timer; its number is how many there were before. -/
def schedule (b : Bench) (delay takes : Nat) : Bench :=
  { b with
    agenda := b.agenda.schedule b.timers.length (sleepFor delay)
    timers := b.timers ++ [{ takes := sleepFor takes }] }

/-- Cancel a timer. -/
def cancel (b : Bench) (number : Nat) : Bench :=
  { b with
    agenda := b.agenda.cancel number
    timers := b.timers.modify number fun t => { t with cancelled := true } }

/-- One event stands before another: by time, then by number. -/
def before (a b : Nat × Nat) : Bool := a.1 < b.1 || (a.1 == b.1 && a.2 ≤ b.2)

/-- Let time pass: the tasks that finish, with the times at which they do. -/
def advance (b : Bench) (span : Nat) : List (Nat × Nat) × Bench :=
  let time := b.agenda.now + sleepFor span
  let due := b.agenda.alarms.takeWhile fun a => a.due ≤ time
  let started := due.map fun a => (a.due + (b.timers[a.key]?.map (·.takes)).getD 0, a.key)
  let running := b.running ++ started
  let finished := running.filter fun r => r.1 ≤ time
  (finished.mergeSort before,
    { b with
      agenda := { now := time, alarms := b.agenda.alarms.dropWhile fun a => a.due ≤ time }
      running := running.filter fun r => time < r.1 })

end Bench

end Watchdesk
