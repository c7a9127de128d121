import Watchdesk.Proofs.Polling.Ledger
import Watchdesk.Proofs.Polling.Observers

/-!
# Who gets a snapshot

When a fetch settles, a round begins: those who observe the store at that moment get the snapshot
one after another, and then the next poll is armed. What they do about it is an event like any
other: they go, have others go, bring new ones, or ask for a poll, and so may anybody else before
the round has come to its end. `track` follows one round through all that, and says who got the
snapshot in it and where it stands. `notification` is the round in one piece, with nothing between
its observers but what they do themselves.
-/

namespace Watchdesk

/-- A snapshot that an observer gets, and what the store knows at that time. -/
structure Delivery (σ ω : Type) where
  observer : Nat × ω
  snapshot : σ
  known : σ
deriving DecidableEq, Repr

namespace Poller

variable {σ ω : Type}

/-- What an event does for a round. -/
inductive Turn (σ ω : Type) where
  /-- Nothing; the round has this place among the rounds from then on. -/
  | stays (place : Nat)
  /-- An observer gets the snapshot. -/
  | delivers (delivery : Delivery σ ω)
  /-- The round comes to its end. -/
  | ends
deriving DecidableEq, Repr

/-- What an event does for the round at a place. -/
def turn (p : Poller σ ω) (place : Nat) : Event σ ω → Turn σ ω
  | .proceed other =>
    match p.rounds[other]? with
    | none => .stays place
    | some { waiting := [], .. } =>
      if other = place then .ends else .stays (if other < place then place - 1 else place)
    | some { snapshot, waiting := observer :: _ } =>
      if other = place then .delivers { observer, snapshot, known := p.store.snapshot }
      else .stays place
  | .subscribe _ | .unsubscribe _ | .poll | .enter | .pass _ | .fire | .settle _ => .stays place

/-- What an observer does when it gets a snapshot. -/
inductive Reaction (ω : Type) where
  /-- It brings an observer. -/
  | brings (observer : ω)
  /-- It goes itself, or has another observer go. -/
  | dismisses (id : Nat)
  /-- It calls for a poll, which is let in after the round. -/
  | polls

/-- What a reaction is to the store. -/
def Reaction.event : Reaction ω → Event σ ω
  | .brings observer => .subscribe observer
  | .dismisses id => .unsubscribe id
  | .polls => .poll

end Poller

end Watchdesk
