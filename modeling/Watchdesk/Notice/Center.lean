import Watchdesk.Clock.Agenda
import Watchdesk.Notice.Basic
import Watchdesk.Settings.Basic
import Watchdesk.Text.Digest

/-!
# The list of notices

The list holds at most as many notices as the settings allow, and always room for one; a new
notice pushes the oldest ones out. A notice with a duration has its removal on the agenda, under
its own id, until it is removed.
-/

namespace Watchdesk

/-- The list of notices. -/
structure Center where
  capacity : Nat
  defaultDuration : Nat
  /-- The notices, newest first. -/
  notices : List Notice := []
  /-- The notices whose removal is on the agenda. -/
  timers : List String := []
  /-- How many notices were ever published. -/
  issued : Nat := 0
deriving Repr, Inhabited

namespace Center

/-- An empty list. -/
def ofSettings (s : NoticeSettings) : Center :=
  { capacity := max s.capacity 1, defaultDuration := s.defaultDuration }

/-- The id of the `n`th notice. -/
def noticeId (n : Nat) : String :=
  String.ofList ("00000000-0000-4000-8000-".toList ++ Text.hex 12 n)

/-- How long a notice stays up, if it is removed at all. -/
def lifetime (c : Center) : NoticeDuration → Option Nat
  | .usual => if c.defaultDuration = 0 then none else some c.defaultDuration
  | .persistent => none
  | .milliseconds n => if n = 0 then none else some n

/-- Forget the removal of a notice: the orders that strike it off. -/
def disarm (c : Center) (id : String) : Center × List (Order String) :=
  if id ∈ c.timers then ({ c with timers := c.timers.filter (· ≠ id) }, [.cancel id]) else (c, [])

/-- Push out the notices beyond the capacity, the oldest first. -/
def evict (c : Center) (evicted : List Notice) : Center × List (Order String) :=
  evicted.foldr (fun n (c, orders) =>
    let (c, more) := c.disarm n.id
    (c, orders ++ more)) (c, [])

/-- Publish a notice: its id. -/
def publish (c : Center) (now : Nat) (n : NewNotice) : String × Center × List (Order String) :=
  let id := noticeId (c.issued + 1)
  let lifetime := c.lifetime n.duration
  let notice : Notice :=
    { id, title := n.title, description := n.description, variant := n.variant,
      duration := lifetime, createdAt := now }
  let all := notice :: c.notices
  let listed := { c with notices := all.take c.capacity, issued := c.issued + 1 }
  let (kept, orders) := listed.evict (all.drop c.capacity)
  match lifetime with
  | none => (id, kept, orders)
  | some delay =>
    (id, { kept with timers := kept.timers ++ [id] }, orders ++ [.schedule id delay])

/-- Remove a notice: whether it was there. -/
def dismiss (c : Center) (id : String) : Bool × Center × List (Order String) :=
  let (c, orders) := c.disarm id
  let kept := c.notices.filter fun n => n.id ≠ id
  (kept.length != c.notices.length, { c with notices := kept }, orders)

end Center

end Watchdesk
