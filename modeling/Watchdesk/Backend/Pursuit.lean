import Watchdesk.Backend.Retry

/-!
# Pursuing a question

A question on its own: it is asked, and asked again after pauses, until it is settled. `pursue`
plays it against any sequence of answers, each of which takes its time.
-/

namespace Watchdesk

/-- How a question was pursued. -/
structure Pursuit where
  /-- When the question was asked. -/
  asked : List Nat
  /-- When it was settled. -/
  settledAt : Nat
  result : Except Fault String

namespace Retry

/-- A question is asked again only as often as the settings allow. -/
theorem lt_retries_of_judge {s : BackendSettings} {attempts span : Nat}
    {answer : Except Fault Reply} (h : judge s attempts answer = .again span) :
    attempts < s.retries := by
  have retried (f : Fault) (h : judge.retry s attempts f = .again span) :
      attempts < s.retries := by
    unfold judge.retry at h
    split at h
    · cases h
    · omega
  unfold judge at h
  split at h
  · exact retried _ h
  · split at h
    · cases h
    · split at h
      · exact retried _ h
      · cases h

/-- Pursue a question that was asked again `attempts` times already, from a time on. -/
def pursue (s : BackendSettings) (answers : Nat → Except Fault Reply) (latency : Nat → Nat)
    (attempts now : Nat) : Pursuit :=
  let answered := now + latency attempts
  match _again : judge s attempts (answers attempts) with
  | .settled result => { asked := [now], settledAt := answered, result }
  | .again span =>
    let rest := pursue s answers latency (attempts + 1) (answered + span)
    { rest with asked := now :: rest.asked }
termination_by s.retries - attempts
decreasing_by
  have := lt_retries_of_judge _again
  omega

end Retry

end Watchdesk
