/-!
# The agenda of a clock

Work that waits for its time stands on an agenda, in the order in which it becomes due; work that
becomes due at the same time stands in the order in which it was put there. The parts of the desk
do not touch the agenda themselves. They give orders to put work on it and to strike it off again,
under keys that say which work it is.

An agenda is what the parts of the desk may expect of whoever keeps time for them: work is done
once, when its delay is over, unless it was struck off before. It knows no longest delay. How one
keeper of time comes to that, and where it falls short of it, is the matter of `Bench`.
-/

namespace Watchdesk

/-- Something that is to be done with the agenda. -/
inductive Order (κ : Type) where
  /-- Put work on the agenda that becomes due after a delay. -/
  | schedule (key : κ) (delay : Nat)
  /-- Strike work off. -/
  | cancel (key : κ)
deriving DecidableEq, Repr

/-- The same order under another key. -/
def Order.map {κ κ' : Type} (f : κ → κ') : Order κ → Order κ'
  | .schedule key delay => .schedule (f key) delay
  | .cancel key => .cancel (f key)

/-- Work that waits for its time. -/
structure Alarm (κ : Type) where
  key : κ
  due : Nat
deriving DecidableEq, Repr

/-- The time, in milliseconds, and the work that waits, in the order in which it becomes due. -/
structure Agenda (κ : Type) where
  now : Nat := 0
  alarms : List (Alarm κ) := []
deriving Repr, Inhabited

namespace Agenda

variable {κ : Type}

/-- Put an alarm behind all that are not due after it. -/
def place (a : Alarm κ) : List (Alarm κ) → List (Alarm κ)
  | [] => [a]
  | b :: bs => if a.due < b.due then a :: b :: bs else b :: place a bs

/-- Put work on the agenda. -/
def schedule (g : Agenda κ) (key : κ) (delay : Nat) : Agenda κ :=
  { g with alarms := place ⟨key, g.now + delay⟩ g.alarms }

/-- Strike work off the agenda. -/
def cancel [DecidableEq κ] (g : Agenda κ) (key : κ) : Agenda κ :=
  { g with alarms := g.alarms.filter fun a => a.key ≠ key }

/-- Carry out an order. -/
def obey [DecidableEq κ] (g : Agenda κ) : Order κ → Agenda κ
  | .schedule key delay => g.schedule key delay
  | .cancel key => g.cancel key

/-- Carry out orders, one after another. -/
def obeyAll [DecidableEq κ] (g : Agenda κ) (orders : List (Order κ)) : Agenda κ :=
  orders.foldl obey g

/-- Take the first work off the agenda if it is due at the given time. -/
def takeDue (g : Agenda κ) (time : Nat) : Option (Alarm κ × Agenda κ) :=
  match g.alarms with
  | [] => none
  | a :: rest => if a.due ≤ time then some (a, { g with alarms := rest }) else none

/-- How long the work still waits, and its key, in order. -/
def waits (g : Agenda κ) : List (κ × Nat) := g.alarms.map fun a => (a.key, a.due - g.now)

end Agenda

end Watchdesk
