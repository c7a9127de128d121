import Watchdesk.Desk.Running

/-!
# Serving

Somebody who serves keeps both stores observed until the desk is closed. Whoever goes lets the
observers go, and gives up the job that runs. Closing and going are one step: that somebody who
serves may wait for the visits under way to be answered before going is left out.
-/

namespace Watchdesk.Desk

/-- The fault of a port that somebody else has. -/
def portTaken (port : Nat) : Fault :=
  .interface ("Failed to bind port " ++ toString port
    ++ ": Address already in use (os error 98)")

/-- Have both stores observed: the observers of the job and of the health. -/
def observe (d : Desk) : Nat × Nat × Desk :=
  let (jobObserver, d) := d.subscribe .job .announcer
  let (healthObserver, d) := d.subscribe .health .keeper
  (jobObserver, healthObserver, d)

/-- Let the observers of both stores go. -/
def unobserve (d : Desk) (jobObserver healthObserver : Nat) : Desk :=
  (d.unsubscribe .job jobObserver).unsubscribe .health healthObserver

/-- Somebody who serves goes. -/
def endShift (d : Desk) (s : Shift) : Desk :=
  ((d.unobserve s.jobObserver s.healthObserver).reset).tell (.served s.caller (.ok ()))

/-- Serve until the desk is closed. The interface cannot be offered on a port that somebody else
has, be it an outsider or one who serves at this desk already. -/
def serve (d : Desk) (caller : Caller) (taken : Option Nat) : Desk :=
  let (jobObserver, healthObserver, d) := d.observe
  if d.settings.interface.blocked fun port => taken == some port || !d.shifts.isEmpty then
    (d.unobserve jobObserver healthObserver).tell
      (.served caller (.error (portTaken d.settings.interface.port)))
  else
    let shift : Shift := { caller, jobObserver, healthObserver }
    if d.closed then d.endShift shift else { d with shifts := d.shifts ++ [shift] }

/-- Close the desk: all who serve go. -/
def shutDown (d : Desk) : Desk :=
  d.shifts.foldl endShift { d with closed := true, shifts := [] }

end Watchdesk.Desk
