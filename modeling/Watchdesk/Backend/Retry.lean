import Watchdesk.Backend.Reply
import Watchdesk.Clock.Sleep
import Watchdesk.Settings.Basic

/-!
# Asking again

A question that fails for the moment is asked again, after a pause that grows with every attempt,
as often as the settings allow. A trigger is never sent again.
-/

namespace Watchdesk

/-- What an answer to a question comes to. -/
inductive Verdict where
  /-- The question is settled: the body of the reply, or a fault. -/
  | settled (result : Except Fault String)
  /-- The question is asked again after a pause. -/
  | again (pause : Nat)

namespace Retry

/-- Judge the answer to a question that was asked again `attempts` times already. -/
def judge (settings : BackendSettings) (attempts : Nat) (answer : Except Fault Reply) :
    Verdict :=
  match answer with
  | .error fault => retry fault
  | .ok reply =>
    if reply.isSuccess then .settled (.ok reply.body)
    else if reply.isTransient then retry reply.fault
    else .settled (.error reply.fault)
where
  /-- Ask again unless that was done often enough. -/
  retry (fault : Fault) : Verdict :=
    if settings.retries ≤ attempts then .settled (.error fault)
    else .again (sleepFor (settings.retryDelay * (attempts + 1)))

/-- The answer to a trigger is final. -/
def triggered (answer : Except Fault Reply) : Except Fault String :=
  match answer with
  | .error fault => .error fault
  | .ok reply => if reply.isSuccess then .ok reply.body else .error reply.fault

end Retry

/-- The value that a body holds. -/
def readBody {α : Type} (d : Decoder α) : Except Fault String → Except Fault α
  | .error fault => .error fault
  | .ok body =>
    match d.read body with
    | .ok x => .ok x
    | .error _ => .error .unreadable

end Watchdesk
