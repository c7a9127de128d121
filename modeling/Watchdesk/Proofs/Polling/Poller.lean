import Watchdesk.Polling.Store

/-!
# A store at work

A store gives orders and does not fetch. A poller is a store together with what carries its orders
out: an agenda of its own, the calls to poll that have not looked yet whether a poll is under way,
the fetches that are under way, and the rounds in which observers get a snapshot. What may happen
to it is an event, and every list of events is a run; an event for which nothing is there (an
answer without a fetch, a timer that is not due) does nothing.

The grain is that of the places where something else may come in between. A timer that has fired
and a call to poll wait to be let in. A round hands its snapshot to one observer after another, and
what the observer does about it (leave, have others leave, bring new ones, poll) are events of
their own, before the next observer has its turn. The stores of a desk, where less can come in
between, are always where such a run ends (`Desk.live_shows`).
-/

namespace Watchdesk

/-- What is left of a poll that has settled: observers that are still to get its snapshot, and then
the next poll. -/
structure Round (σ ω : Type) where
  snapshot : σ
  waiting : List (Nat × ω)
deriving Repr, Inhabited

/-- A store at work. -/
structure Poller (σ ω : Type) where
  store : Store σ ω
  agenda : Agenda Nat := {}
  /-- The calls to poll that have not looked yet whether a poll is under way. -/
  calls : Nat := 0
  /-- The fetches that are under way. -/
  fetching : Nat := 0
  /-- How many fetches were ever begun. -/
  begun : Nat := 0
  /-- The rounds that have not come to their end. -/
  rounds : List (Round σ ω) := []
deriving Repr, Inhabited

namespace Poller

variable {σ ω : Type}

/-- What may happen to a poller. -/
inductive Event (σ ω : Type) where
  | subscribe (observer : ω)
  /-- An observer goes, or somebody has it go. -/
  | unsubscribe (id : Nat)
  /-- Somebody calls for a poll. -/
  | poll
  /-- A call to poll looks whether a poll is under way, and begins a fetch if not. -/
  | enter
  /-- Time passes. -/
  | pass (span : Nat)
  /-- The timer that is due fires, and calls for a poll. -/
  | fire
  /-- A fetch settles. -/
  | settle (outcome : Except Fault σ)
  /-- A round goes on: the next observer gets the snapshot, or the next poll is armed. -/
  | proceed (round : Nat)

/-- An event that may bring about a fetch without a timer. -/
def Event.asks : Event σ ω → Bool
  | .subscribe _ | .poll => true
  | .unsubscribe _ | .enter | .pass _ | .fire | .settle _ | .proceed _ => false

/-- A store that nobody has observed yet, at work. -/
def ofSource (source : Source σ) : Poller σ ω := { store := .ofSource source }

/-- A store after an operation, and the operation's orders. -/
def follow (p : Poller σ ω) (change : Store σ ω × List (Order Nat)) : Poller σ ω :=
  { p with store := change.1, agenda := p.agenda.obeyAll change.2 }

/-- Let a call to poll look. -/
def enter (p : Poller σ ω) : Poller σ ω :=
  if p.calls = 0 then p
  else
    match p.store.startPoll with
    | none => { p with calls := p.calls - 1 }
    | some store =>
      { p with store, calls := p.calls - 1, fetching := p.fetching + 1, begun := p.begun + 1 }

/-- Fire the timer that is due. -/
def fire (p : Poller σ ω) : Poller σ ω :=
  match p.agenda.takeDue p.agenda.now with
  | none => p
  | some (alarm, agenda) =>
    { p with store := p.store.fire alarm.key, agenda, calls := p.calls + 1 }

/-- Settle a fetch, and begin a round. -/
def settle (p : Poller σ ω) (source : Source σ) (outcome : Except Fault σ) : Poller σ ω :=
  if p.fetching = 0 then p
  else
    let store := p.store.settle source outcome
    { p with
      store
      fetching := p.fetching - 1
      rounds := p.rounds ++ [{ snapshot := store.snapshot, waiting := store.observers }] }

/-- Go on with a round. -/
def proceed (p : Poller σ ω) (source : Source σ) (round : Nat) : Poller σ ω :=
  match p.rounds[round]? with
  | none => p
  | some { snapshot, waiting := [] } =>
    { p with rounds := p.rounds.eraseIdx round }.follow (p.store.rearm source snapshot)
  | some { snapshot, waiting := _ :: waiting } =>
    { p with rounds := p.rounds.set round { snapshot, waiting } }

/-- What becomes of a poller. -/
def step (source : Source σ) (p : Poller σ ω) : Event σ ω → Poller σ ω
  | .subscribe observer => p.follow (p.store.subscribe observer).2
  | .unsubscribe id => p.follow (p.store.unsubscribe id)
  | .poll => { p with calls := p.calls + 1 }
  | .enter => p.enter
  | .pass span => { p with agenda := { p.agenda with now := p.agenda.now + span } }
  | .fire => p.fire
  | .settle outcome => p.settle source outcome
  | .proceed round => p.proceed source round

/-- What becomes of a poller in a run. -/
def run (source : Source σ) (p : Poller σ ω) (events : List (Event σ ω)) : Poller σ ω :=
  events.foldl (step source) p

/-- No work is left that could go on at once: no call to poll waits, and every round has come to
its end. -/
def Rested (p : Poller σ ω) : Prop := p.calls = 0 ∧ p.rounds = []

instance (p : Poller σ ω) : Decidable p.Rested :=
  inferInstanceAs (Decidable (p.calls = 0 ∧ p.rounds = []))

@[simp] theorem run_nil (source : Source σ) (p : Poller σ ω) : run source p [] = p := rfl

@[simp] theorem run_cons (source : Source σ) (p : Poller σ ω) (event : Event σ ω)
    (events : List (Event σ ω)) :
    run source p (event :: events) = run source (p.step source event) events := rfl

theorem run_append (source : Source σ) (p : Poller σ ω) (first second : List (Event σ ω)) :
    run source p (first ++ second) = run source (run source p first) second :=
  List.foldl_append

/-- A round that goes on without anything in between: its observers get their snapshot one after
another, and then the next poll is armed. -/
theorem run_round (source : Source σ) (p : Poller σ ω) (round : Round σ ω)
    (only : p.rounds = [round]) :
    run source p (List.replicate (round.waiting.length + 1) (.proceed 0)) =
      { p with rounds := [] }.follow (p.store.rearm source round.snapshot) := by
  obtain ⟨snapshot, waiting⟩ := round
  induction waiting generalizing p with
  | nil =>
    show p.proceed source 0 = _
    simp [proceed, only]
  | cons observer waiting ih =>
    have next : p.step source (.proceed 0) = { p with rounds := [{ snapshot, waiting }] } := by
      simp [step, proceed, only]
    rw [List.length_cons, List.replicate_succ, run_cons, next]
    exact ih _ rfl

end Poller

end Watchdesk
