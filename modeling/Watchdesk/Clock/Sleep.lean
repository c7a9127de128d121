/-!
# Sleeping

A clock can be told to sleep for a while, but not for as long as one likes.
-/

namespace Watchdesk

/-- The longest sleep, in milliseconds: thirty years of 365 days. -/
def longestSleep : Nat := 30 * 365 * 24 * 60 * 60 * 1000

/-- How long a clock sleeps that is told to sleep for a span. -/
def sleepFor (span : Nat) : Nat := min span longestSleep

end Watchdesk
