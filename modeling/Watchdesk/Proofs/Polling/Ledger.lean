import Watchdesk.Desk.Task
import Watchdesk.Proofs.Polling.Lifecycle
import Mathlib.Data.List.Induction

/-!
# The fetches of a store

A ledger is a store at work with a record of its fetches. Fetches are numbered as they begin, and a
reply says which of them it is for: replies may come late and in any order. They cannot, because a
store never has two fetches under way. So no reply is lost or comes too late, and what a store knows
is what its replies, in the order of the fetches, leave of what it knew at first.
-/

namespace Watchdesk

namespace Poller

variable {σ ω : Type}

/-- A fetch settles. -/
def Event.settles : Event σ ω → Bool
  | .settle _ => true
  | .subscribe _ | .unsubscribe _ | .poll | .enter | .pass _ | .fire | .proceed _ => false

theorem enter_fetches (p : Poller σ ω) :
    p.enter.store.snapshot = p.store.snapshot ∧
      (p.enter.begun = p.begun ∧ p.enter.fetching = p.fetching ∨
        p.store.busy = false ∧ p.enter.begun = p.begun + 1 ∧
          p.enter.fetching = p.fetching + 1) := by
  unfold enter
  split
  · exact ⟨rfl, Or.inl ⟨rfl, rfl⟩⟩
  · cases busy : p.store.busy with
    | true =>
      rw [startPoll_of_busy busy]
      exact ⟨rfl, Or.inl ⟨rfl, rfl⟩⟩
    | false =>
      rw [startPoll_of_idle busy]
      exact ⟨rfl, Or.inr ⟨rfl, rfl, rfl⟩⟩

theorem subscribe_snapshot (s : Store σ ω) (observer : ω) :
    (s.subscribe observer).2.1.snapshot = s.snapshot := by
  unfold Store.subscribe
  dsimp only
  split <;> rfl

theorem unsubscribe_snapshot (s : Store σ ω) (id : Nat) :
    (s.unsubscribe id).1.snapshot = s.snapshot := by
  unfold Store.unsubscribe
  dsimp only
  split <;> rfl

theorem fire_snapshot (s : Store σ ω) (number : Nat) :
    (s.fire number).snapshot = s.snapshot := by
  unfold Store.fire
  split <;> rfl

theorem rearm_snapshot (s : Store σ ω) (source : Source σ) (snapshot : σ) :
    (s.rearm source snapshot).1.snapshot = s.snapshot := by
  unfold Store.rearm
  split <;> rfl

/-- Only a fetch that settles changes what a store knows, and only an idle store begins a fetch. -/
theorem step_fetches (p : Poller σ ω) (source : Source σ) {event : Event σ ω}
    (other : event.settles = false) :
    (p.step source event).store.snapshot = p.store.snapshot ∧
      ((p.step source event).begun = p.begun ∧ (p.step source event).fetching = p.fetching ∨
        p.store.busy = false ∧ (p.step source event).begun = p.begun + 1 ∧
          (p.step source event).fetching = p.fetching + 1) := by
  cases event with
  | subscribe observer => exact ⟨subscribe_snapshot p.store observer, Or.inl ⟨rfl, rfl⟩⟩
  | unsubscribe id => exact ⟨unsubscribe_snapshot p.store id, Or.inl ⟨rfl, rfl⟩⟩
  | poll => exact ⟨rfl, Or.inl ⟨rfl, rfl⟩⟩
  | enter => exact enter_fetches p
  | pass span => exact ⟨rfl, Or.inl ⟨rfl, rfl⟩⟩
  | fire =>
    simp only [step, fire]
    split
    · exact ⟨rfl, Or.inl ⟨rfl, rfl⟩⟩
    · exact ⟨fire_snapshot p.store _, Or.inl ⟨rfl, rfl⟩⟩
  | settle outcome => cases other
  | proceed round =>
    simp only [step, proceed]
    split
    · exact ⟨rfl, Or.inl ⟨rfl, rfl⟩⟩
    · exact ⟨rearm_snapshot p.store source _, Or.inl ⟨rfl, rfl⟩⟩
    · exact ⟨rfl, Or.inl ⟨rfl, rfl⟩⟩

/-- A call to poll while a fetch is under way is let in and does nothing. -/
theorem enter_of_busy {p : Poller σ ω} (busy : p.store.busy = true) :
    p.enter = { p with calls := p.calls - 1 } := by
  unfold enter
  split
  · next none =>
    rw [none]
    exact congrArg (fun calls => { p with calls }) none
  · rw [startPoll_of_busy busy]

end Poller

/-- A store at work with a record of its fetches, whose replies are read off raw ones. -/
structure Ledger (ρ σ ω : Type) where
  poller : Poller σ ω
  /-- The fetches that wait for their replies, by number. -/
  waiting : List Nat := []
  /-- The fetches that have settled, in the order in which they did, with their replies. -/
  settled : List (Nat × ρ) := []

namespace Ledger

variable {ρ σ ω : Type}

/-- What may happen to a store and its fetches. -/
inductive Event (ρ σ ω : Type) where
  /-- A reply comes for a fetch. -/
  | reply (number : Nat) (reply : ρ)
  /-- Something else happens to the store. -/
  | other (event : Poller.Event σ ω) (other : event.settles = false)

/-- The ledger of a store that nobody has observed yet. -/
def ofSource (source : Source σ) : Ledger ρ σ ω := { poller := .ofSource source }

/-- What becomes of a ledger. A fetch that begins gets the next number. -/
def step (source : Source σ) (read : ρ → Except Fault σ) (l : Ledger ρ σ ω) :
    Event ρ σ ω → Ledger ρ σ ω
  | .reply number reply =>
    if number ∈ l.waiting then
      { poller := l.poller.step source (.settle (read reply))
        waiting := l.waiting.erase number
        settled := l.settled ++ [(number, reply)] }
    else l
  | .other event _ =>
    let poller := l.poller.step source event
    { l with
      poller
      waiting := l.waiting ++ List.range' (l.poller.begun + 1) (poller.begun - l.poller.begun) }

/-- What becomes of a ledger in the course of events. -/
def run (source : Source σ) (read : ρ → Except Fault σ) (l : Ledger ρ σ ω)
    (events : List (Event ρ σ ω)) : Ledger ρ σ ω :=
  events.foldl (step source read) l

/-- The ledger knows the fetches of its store, and the store what their replies say. -/
structure Valid (source : Source σ) (read : ρ → Except Fault σ) (l : Ledger ρ σ ω) : Prop where
  poller : l.poller.Valid
  fetching : l.waiting.length = l.poller.fetching
  /-- The fetches that have settled are the first ones. -/
  numbers : l.settled.map Prod.fst ++ l.waiting = List.range' 1 l.poller.begun
  snapshot : l.poller.store.snapshot =
    (l.settled.map fun fetch => read fetch.2).foldl source.commit source.initial

variable {source : Source σ} {read : ρ → Except Fault σ} {l : Ledger ρ σ ω}

theorem ofSource_valid (source : Source σ) (read : ρ → Except Fault σ) :
    Valid source read (ofSource source : Ledger ρ σ ω) where
  poller := Poller.ofSource_valid source
  fetching := rfl
  numbers := rfl
  snapshot := rfl

theorem Valid.length_waiting_le_one (valid : l.Valid source read) : l.waiting.length ≤ 1 := by
  rw [valid.fetching, valid.poller.fetching]
  exact Bool.toNat_le _

theorem reply_valid (valid : l.Valid source read) (number : Nat) (reply : ρ) :
    (l.step source read (.reply number reply)).Valid source read := by
  simp only [step]
  split
  · next member =>
    -- At most one fetch waits, so the reply is for that one.
    have alone : l.waiting = [number] := by
      have few := valid.length_waiting_le_one
      match waiting : l.waiting with
      | [] => simp [waiting] at member
      | [other] =>
        rw [waiting, List.mem_singleton] at member
        rw [member]
      | _ :: _ :: _ => simp [waiting] at few
    have one : l.poller.fetching = 1 := by rw [← valid.fetching, alone]; rfl
    have settled : l.poller.fetching ≠ 0 := by omega
    have numbers := valid.numbers
    rw [alone] at numbers ⊢
    exact
      { poller := Poller.step_valid valid.poller source (.settle (read reply))
        fetching := by simp [Poller.step, Poller.settle, one]
        numbers := by
          simpa [Poller.step, Poller.settle, settled] using numbers
        snapshot := by
          simp only [Poller.step, Poller.settle, settled, if_false, Store.settle, valid.snapshot,
            List.map_append, List.foldl_append]
          rfl }
  · exact valid

theorem other_valid (valid : l.Valid source read) (event : Poller.Event σ ω)
    (other : event.settles = false) :
    (l.step source read (.other event other)).Valid source read := by
  obtain ⟨snapshot, moved⟩ := l.poller.step_fetches source other
  have poller := Poller.step_valid valid.poller source event
  have known := snapshot.trans valid.snapshot
  rcases moved with ⟨begun, fetching⟩ | ⟨-, begun, fetching⟩
  · exact
      { poller
        fetching := by
          simp only [step, begun, Nat.sub_self, List.range'_zero, List.append_nil]
          exact valid.fetching.trans fetching.symm
        numbers := by
          simp only [step, begun, Nat.sub_self, List.range'_zero, List.append_nil]
          exact valid.numbers
        snapshot := known }
  · have next : l.poller.begun + 1 - l.poller.begun = 1 := by omega
    exact
      { poller
        fetching := by
          simp only [step, begun, next, List.length_append, List.length_range', fetching,
            valid.fetching]
        numbers := by
          simp only [step, begun, next, ← List.append_assoc, valid.numbers]
          rw [Nat.add_comm l.poller.begun 1, List.range'_append_1, Nat.add_comm]
        snapshot := known }

theorem step_valid (valid : l.Valid source read) (event : Event ρ σ ω) :
    (l.step source read event).Valid source read := by
  cases event with
  | reply number reply => exact reply_valid valid number reply
  | other event other => exact other_valid valid event other

theorem run_valid (valid : l.Valid source read) (events : List (Event ρ σ ω)) :
    (run source read l events).Valid source read := by
  induction events generalizing l with
  | nil => exact valid
  | cons event events ih => exact ih (step_valid valid event)

end Ledger

/-! ## What a store knows -/

/-- What a store of a desk knows after replies. The store of the job keeps the job of the last reply
that told one, and whether the last reply told none. -/
def Feed.known : (feed : Feed) → List (Except Fault String) → feed.State
  | .job, replies =>
    let jobs := replies.map (readBody JobState.decoder)
    { job := (jobs.filterMap Except.toOption).getLast?
      error := jobs.getLast?.any fun last => !last.isOk }
  | .health, replies =>
    match (replies.map (readBody HealthState.decoder)).getLast? with
    | none => .loading
    | some (.ok state) => state
    | some (.error _) => .unreachable

theorem Feed.known_nil (settings : PollingSettings) (feed : Feed) :
    feed.known [] = (feed.source settings).initial := by
  cases feed <;> rfl

theorem Feed.known_append (settings : PollingSettings) (feed : Feed)
    (replies : List (Except Fault String)) (reply : Except Fault String) :
    feed.known (replies ++ [reply]) =
      (feed.source settings).commit (feed.known replies) (feed.read reply) := by
  cases feed with
  | job =>
    cases outcome : readBody JobState.decoder reply <;>
      simp [known, read, source, Source.job, Source.commit, outcome, Except.map,
        Except.toOption, Except.isOk, Except.toBool]
  | health =>
    cases outcome : readBody HealthState.decoder reply <;>
      simp [known, read, source, Source.health, Source.commit, outcome]

theorem Feed.known_eq_foldl (settings : PollingSettings) (feed : Feed)
    (replies : List (Except Fault String)) :
    feed.known replies =
      (replies.map feed.read).foldl (feed.source settings).commit
        (feed.source settings).initial := by
  induction replies using List.reverseRecOn with
  | nil => exact feed.known_nil settings
  | append_singleton replies reply ih =>
    rw [feed.known_append settings, ih, List.map_append, List.foldl_append]
    rfl

namespace Ledger

variable {ρ σ ω : Type} {source : Source σ} {read : ρ → Except Fault σ} {l : Ledger ρ σ ω}

theorem Valid.busy_iff (valid : l.Valid source read) :
    l.poller.store.busy = true ↔ l.waiting ≠ [] := by
  have counted := valid.fetching.trans valid.poller.fetching
  cases busy : l.poller.store.busy <;> cases waiting : l.waiting <;>
    simp [busy, waiting] at counted ⊢

/-- The fetches that have settled are numbered from one on, without a gap. -/
theorem Valid.settled_numbers (valid : l.Valid source read) :
    l.settled.map Prod.fst = List.range' 1 l.settled.length ∧
      l.settled.length + l.waiting.length = l.poller.begun := by
  have length := congrArg List.length valid.numbers
  simp only [List.length_append, List.length_map, List.length_range'] at length
  refine ⟨?_, length⟩
  have parts := valid.numbers
  rw [← length, ← List.range'_append_1] at parts
  exact (List.append_inj parts (by rw [List.length_map, List.length_range'])).1

/-- A fetch begins when all fetches before it have settled. -/
theorem Valid.begins (valid : l.Valid source read) {event : Event ρ σ ω}
    (begins : l.poller.begun < (l.step source read event).poller.begun) :
    l.waiting = [] ∧ (l.step source read event).waiting = [l.poller.begun + 1] := by
  cases event with
  | reply number reply =>
    simp only [step] at begins
    split at begins
    · simp only [Poller.step, Poller.settle] at begins
      split at begins <;> exact absurd begins (Nat.lt_irrefl _)
    · exact absurd begins (Nat.lt_irrefl _)
  | other event other =>
    obtain ⟨-, moved⟩ := l.poller.step_fetches source other
    rcases moved with ⟨begun, -⟩ | ⟨idle, begun, -⟩
    · simp only [step, begun] at begins
      exact absurd begins (Nat.lt_irrefl _)
    · have none : l.waiting = [] := by
        by_contra some
        rw [valid.busy_iff.mpr some] at idle
        cases idle
      have next : l.poller.begun + 1 - l.poller.begun = 1 := by omega
      refine ⟨none, ?_⟩
      simp only [step, begun, next, none, List.nil_append]
      rfl

/-- For every run of a store of a desk, whatever is polled, observed and answered in whatever order:
at most one fetch is under way. A call to poll that comes meanwhile begins none and changes nothing;
the next fetch begins when all before it have settled. The fetches settle in the order in which they
began, and what the store knows is the fold of their outcomes over what it knew at first. -/
theorem run_single_flight (settings : PollingSettings) (feed : Feed)
    (events : List (Event (Except Fault String) feed.State ω)) :
    let source := feed.source settings
    let l := run source feed.read (ofSource source) events
    let p := l.poller
    p.fetching = l.waiting.length ∧ l.waiting.length ≤ 1 ∧
      (l.waiting ≠ [] → p.enter = { p with calls := p.calls - 1 } ∧
        Poller.run source p [.poll, .enter] = p) ∧
      (∀ event, p.begun < (l.step source feed.read event).poller.begun →
        l.waiting = [] ∧ l.settled.length = p.begun ∧
          (l.step source feed.read event).waiting = [p.begun + 1]) ∧
      l.settled.map Prod.fst = List.range' 1 l.settled.length ∧
      p.store.snapshot =
        (l.settled.map fun fetch => feed.read fetch.2).foldl source.commit source.initial ∧
      p.store.snapshot = feed.known (l.settled.map Prod.snd) := by
  intro source l p
  have valid : l.Valid source feed.read := run_valid (ofSource_valid source feed.read) events
  obtain ⟨numbers, begun⟩ := valid.settled_numbers
  refine ⟨valid.fetching.symm, valid.length_waiting_le_one, ?_, ?_, numbers, valid.snapshot, ?_⟩
  · intro waiting
    have busy : p.store.busy = true := valid.busy_iff.mpr waiting
    have called : ({ p with calls := p.calls + 1 } : Poller _ _).store.busy = true := busy
    exact ⟨Poller.enter_of_busy busy, Poller.enter_of_busy called⟩
  · intro event begins
    obtain ⟨none, one⟩ := valid.begins begins
    have all : l.settled.length = p.begun := by
      rw [none] at begun
      exact begun
    exact ⟨none, all, one⟩
  · rw [valid.snapshot, feed.known_eq_foldl settings, List.map_map]
    rfl

/-- Two calls to poll, of which the second comes while the first one's fetch is under way; a reply
to a fetch that never began is nobody's. -/
example :
    let source := Feed.job.source {}
    let failed : Except Fault String := .error (.transport "down")
    let l : Ledger _ _ Unit := run source Feed.job.read (ofSource source)
      [.other .poll rfl, .other .enter rfl, .other .poll rfl, .other .enter rfl, .reply 2 failed,
        .reply 1 failed]
    l.poller.begun = 1 ∧ l.settled.map Prod.fst = [1] ∧ l.poller.store.snapshot.error = true := by
  decide

end Ledger

end Watchdesk
