import Watchdesk.Proofs.Clock.Timers
import Watchdesk.Proofs.Polling.Poller

/-!
# The life of a store's timer

Whatever happens to a store and in whatever order, it neither leaks a timer nor stalls. The
invariant `Valid` ties the timer that the store remembers to the live timers of the agenda, the
flag of the store to the fetches that are under way, and says where the next poll of an observed
store comes from. Each operation keeps it; `run_valid` carries it over a whole run.
-/

namespace Watchdesk.Poller

variable {σ ω : Type}

/-- What holds of a poller in every run. -/
structure Valid (p : Poller σ ω) : Prop where
  /-- The live timer is the one that the store remembers. -/
  keys : p.agenda.keys = p.store.timer.toList
  /-- No timer has a number that is still to come. -/
  numbered : ∀ number ∈ p.store.timer, number ≤ p.store.sequence
  /-- Nobody waits for the next poll of a store without observers. -/
  unobserved : p.store.observers = [] → p.store.timer = none
  /-- The flag stands for the one fetch that is under way. -/
  fetching : p.fetching = p.store.busy.toNat
  /-- The next poll of an observed store is armed, under way or about to be. -/
  observed : p.store.observers ≠ [] →
    p.store.timer ≠ none ∨ p.store.busy = true ∨ ¬ p.Rested

theorem ofSource_valid (source : Source σ) : Valid (ofSource source : Poller σ ω) where
  keys := rfl
  numbered := by simp [ofSource, Store.ofSource]
  unobserved := fun _ => rfl
  fetching := rfl
  observed := fun present => absurd rfl present

/-- No timer of a store without observers is live. -/
theorem Valid.alarms_of_unobserved {p : Poller σ ω} (valid : p.Valid)
    (unobserved : p.store.observers = []) : p.agenda.alarms = [] := by
  have live := valid.keys
  rwa [valid.unobserved unobserved, Option.toList_none, Agenda.keys_eq_nil] at live

/-! ## The orders of a store -/

/-- Where a store is armed, the timer before it is struck off, and the new one is the only one. -/
theorem Valid.arm_alarms {p : Poller σ ω} (valid : p.Valid) (store : Store σ ω)
    (timer : store.timer = p.store.timer) (sequence : store.sequence = p.store.sequence)
    (delay : Nat) :
    (p.follow (store.arm delay)).agenda.alarms =
      [⟨store.sequence + 1, p.agenda.now + delay⟩] := by
  refine Agenda.alarms_replace delay (timer ▸ valid.keys) ?_
  intro old member
  have bound := valid.numbered old (timer ▸ member)
  omega

/-- A store with observers may be armed at any time. -/
theorem Valid.arm {p : Poller σ ω} (valid : p.Valid) (store : Store σ ω)
    (timer : store.timer = p.store.timer) (sequence : store.sequence = p.store.sequence)
    (busy : store.busy = p.store.busy) (present : store.observers ≠ []) (delay : Nat) :
    (p.follow (store.arm delay)).Valid where
  keys := congrArg (List.map Alarm.key) (valid.arm_alarms store timer sequence delay)
  numbered := by
    intro number member
    cases member
    exact Nat.le_refl _
  unobserved := fun empty => absurd empty present
  fetching := valid.fetching.trans (congrArg Bool.toNat busy.symm)
  observed := fun _ => Or.inl (Option.some_ne_none _)

/-- The first observer has the store armed, and those who join others have nothing done. -/
theorem subscribe_cases (s : Store σ ω) (observer : ω) :
    let joined :=
      { s with nextId := s.nextId + 1, observers := s.observers ++ [(s.nextId, observer)] }
    (s.subscribe observer).2 = joined.arm 0 ∨
      s.observers ≠ [] ∧ (s.subscribe observer).2 = (joined, []) := by
  by_cases alone : s.observers = []
  · left
    simp [Store.subscribe, alone]
  · right
    simp [Store.subscribe, alone]

/-- The last observer to go has the timer struck off, and those who leave others behind have nothing
done. -/
theorem unsubscribe_cases (s : Store σ ω) (id : Nat) :
    s.unsubscribe id =
        ({ s with observers := [], timer := none }, s.timer.toList.map Order.cancel) ∨
      s.observers ≠ [] ∧ ∃ left ≠ [], s.unsubscribe id = ({ s with observers := left }, []) := by
  by_cases alone : s.observers.filter (fun o => o.1 ≠ id) = []
  · left
    simp only [Store.unsubscribe, alone, List.isEmpty_nil, if_true]
  · right
    have present : s.observers ≠ [] := by
      intro empty
      simp [empty] at alone
    refine ⟨present, _, alone, ?_⟩
    simp only [Store.unsubscribe, List.isEmpty_iff, alone, if_false]

/-- The first observer has the store armed; others change nothing about its timer. -/
theorem subscribe_valid {p : Poller σ ω} (valid : p.Valid) (observer : ω) :
    (p.follow (p.store.subscribe observer).2).Valid := by
  let observers := p.store.observers ++ [(p.store.nextId, observer)]
  have joined : observers ≠ [] := by simp [observers]
  rcases subscribe_cases p.store observer with armed | ⟨present, same⟩
  · rw [armed]
    exact valid.arm { p.store with nextId := p.store.nextId + 1, observers } rfl rfl rfl joined 0
  · rw [same]
    exact
      { valid with
        unobserved := fun empty => absurd empty joined
        observed := fun _ => valid.observed present }

/-- The last observer to go has the timer struck off; others change nothing about it. -/
theorem unsubscribe_valid {p : Poller σ ω} (valid : p.Valid) (id : Nat) :
    (p.follow (p.store.unsubscribe id)).Valid := by
  rcases unsubscribe_cases p.store id with released | ⟨present, left, some, same⟩
  · rw [released]
    exact
      { valid with
        keys := Agenda.keys_release valid.keys
        numbered := fun number member => by cases member
        unobserved := fun _ => rfl
        observed := fun present => absurd rfl present }
  · rw [same]
    exact
      { valid with
        unobserved := fun empty => absurd empty some
        observed := fun _ => valid.observed present }

/-! ## The other steps of a poller -/

theorem startPoll_of_busy {s : Store σ ω} (busy : s.busy = true) : s.startPoll = none := by
  simp [Store.startPoll, busy]

theorem startPoll_of_idle {s : Store σ ω} (idle : s.busy = false) :
    s.startPoll = some { s with busy := true } := by
  simp [Store.startPoll, idle]

/-- A call to poll leaves a fetch under way, whether it begins one or not. -/
theorem enter_valid {p : Poller σ ω} (valid : p.Valid) : p.enter.Valid := by
  unfold enter
  split
  · exact valid
  · cases busy : p.store.busy with
    | true =>
      rw [startPoll_of_busy busy]
      exact { valid with observed := fun _ => Or.inr (Or.inl busy) }
    | false =>
      have idle : p.fetching = 0 := by simpa [busy] using valid.fetching
      rw [startPoll_of_idle busy]
      exact
        { valid with
          fetching := by simp [idle]
          observed := fun _ => Or.inr (Or.inl rfl) }

/-- The timer that fires is the one that the store remembers, and the store forgets it. -/
theorem fire_valid {p : Poller σ ω} (valid : p.Valid) : p.fire.Valid := by
  unfold fire
  split
  · exact valid
  · next alarm agenda taken =>
    have live := (Agenda.keys_of_takeDue taken).symm.trans valid.keys
    cases timer : p.store.timer with
    | none => simp [timer] at live
    | some number =>
      simp only [timer, Option.toList_some, List.cons.injEq] at live
      obtain ⟨same, rest⟩ := live
      have fired : p.store.fire alarm.key = { p.store with timer := none } := by
        simp [Store.fire, timer, same]
      rw [fired]
      exact
        { valid with
          keys := rest
          numbered := fun number member => by cases member
          unobserved := fun _ => rfl
          observed := fun _ => Or.inr (Or.inr (by simp [Rested])) }

/-- The fetch that settles is the only one, and a round stands for what follows. -/
theorem settle_valid {p : Poller σ ω} (valid : p.Valid) (source : Source σ)
    (outcome : Except Fault σ) : (p.settle source outcome).Valid := by
  unfold settle
  split
  · exact valid
  · have one : p.fetching ≤ 1 := valid.fetching ▸ Bool.toNat_le p.store.busy
    exact
      { valid with
        fetching := Nat.sub_eq_zero_of_le one
        observed := fun _ => Or.inr (Or.inr (by simp [Rested])) }

/-- A round that comes to its end has an observed store armed. -/
theorem proceed_valid {p : Poller σ ω} (valid : p.Valid) (source : Source σ) (round : Nat) :
    (p.proceed source round).Valid := by
  unfold proceed
  split
  · exact valid
  · next snapshot _ =>
    unfold Store.rearm
    split
    · next alone =>
      have empty := List.isEmpty_iff.mp alone
      exact { valid with observed := fun present => absurd empty present }
    · next others =>
      have present : p.store.observers ≠ [] := by
        intro empty
        exact others (List.isEmpty_iff.mpr empty)
      have armed := valid.arm p.store rfl rfl rfl present (source.delay snapshot)
      exact { armed with observed := fun _ => Or.inl (Option.some_ne_none _) }
  · next snapshot _ waiting found =>
    have going : p.rounds.set round { snapshot, waiting } ≠ [] := by
      intro ended
      rw [List.set_eq_nil_iff] at ended
      simp [ended] at found
    exact { valid with observed := fun _ => Or.inr (Or.inr fun rested => going rested.2) }

theorem step_valid {p : Poller σ ω} (valid : p.Valid) (source : Source σ) (event : Event σ ω) :
    (p.step source event).Valid := by
  cases event with
  | subscribe observer => exact subscribe_valid valid observer
  | unsubscribe id => exact unsubscribe_valid valid id
  | poll => exact { valid with observed := fun _ => Or.inr (Or.inr (by simp [step, Rested])) }
  | enter => exact enter_valid valid
  | pass span => exact { valid with }
  | fire => exact fire_valid valid
  | settle outcome => exact settle_valid valid source outcome
  | proceed round => exact proceed_valid valid source round

/-- The invariant holds at the end of every run, and so in every state of it. -/
theorem run_valid {p : Poller σ ω} (valid : p.Valid) (source : Source σ)
    (events : List (Event σ ω)) : (run source p events).Valid := by
  induction events generalizing p with
  | nil => exact valid
  | cons event events ih => exact ih (step_valid valid source event)

/-! ## A store that nobody observes -/

/-- Nobody observes the store, and no call to poll waits. -/
structure Asleep (p : Poller σ ω) : Prop where
  valid : p.Valid
  unobserved : p.store.observers = []
  uncalled : p.calls = 0

/-- A round that ends while the store sleeps does nothing else. -/
theorem Asleep.proceed {p : Poller σ ω} (asleep : p.Asleep) (source : Source σ) (round : Nat) :
    ∃ rounds, p.proceed source round = { p with rounds } := by
  unfold Poller.proceed
  split
  · exact ⟨p.rounds, rfl⟩
  · have refused (snapshot : σ) : p.store.rearm source snapshot = (p.store, []) := by
      simp [Store.rearm, asleep.unobserved]
    rw [refused]
    exact ⟨_, rfl⟩
  · exact ⟨_, rfl⟩

/-- A sleeping store is woken by those who ask alone; whatever else happens begins no fetch. -/
theorem Asleep.step {p : Poller σ ω} (asleep : p.Asleep) (source : Source σ)
    {event : Event σ ω} (silent : event.asks = false) :
    (p.step source event).Asleep ∧ (p.step source event).begun = p.begun := by
  have valid := step_valid asleep.valid source event
  cases event with
  | subscribe observer => cases silent
  | poll => cases silent
  | unsubscribe id =>
    have empty : (p.store.unsubscribe id).1.observers = [] := by
      simp [Store.unsubscribe, asleep.unobserved]
    exact ⟨⟨valid, empty, asleep.uncalled⟩, rfl⟩
  | enter =>
    have refused : p.step source .enter = p := by simp [Poller.step, enter, asleep.uncalled]
    rw [refused]
    exact ⟨asleep, rfl⟩
  | pass span => exact ⟨⟨valid, asleep.unobserved, asleep.uncalled⟩, rfl⟩
  | fire =>
    have alarms := asleep.valid.alarms_of_unobserved asleep.unobserved
    have nothing : p.step source .fire = p := by
      simp [Poller.step, fire, Agenda.takeDue, alarms]
    rw [nothing]
    exact ⟨asleep, rfl⟩
  | settle outcome =>
    by_cases still : p.fetching = 0
    · have nothing : p.step source (.settle outcome) = p := by
        simp [Poller.step, settle, still]
      rw [nothing]
      exact ⟨asleep, rfl⟩
    · simp only [Poller.step, settle, still, if_false] at valid ⊢
      exact ⟨⟨valid, asleep.unobserved, asleep.uncalled⟩, trivial⟩
  | proceed round =>
    obtain ⟨rounds, same⟩ := asleep.proceed source round
    simp only [Poller.step, same] at valid ⊢
    exact ⟨⟨valid, asleep.unobserved, asleep.uncalled⟩, trivial⟩

theorem Asleep.run {p : Poller σ ω} (asleep : p.Asleep) (source : Source σ)
    (events : List (Event σ ω)) (silent : ∀ event ∈ events, event.asks = false) :
    (run source p events).Asleep ∧ (run source p events).begun = p.begun := by
  induction events generalizing p with
  | nil => exact ⟨asleep, rfl⟩
  | cons event events ih =>
    obtain ⟨still, same⟩ := asleep.step source (silent event (by simp))
    obtain ⟨rests, later⟩ := ih still fun other member => silent other (by simp [member])
    exact ⟨rests, later.trans same⟩

/-! ## No leak and no stall -/

/-- For every source and every run of a store: at most one timer is live. A store without observers
has no live timer, and once all work that can go on has gone on, no fetch begins until somebody
subscribes or calls for a poll. A store with observers then has a live timer or a fetch under
way. -/
theorem run_tended (source : Source σ) (events : List (Event σ ω)) :
    let p := run source (ofSource source) events
    p.agenda.alarms.length ≤ 1 ∧
      (p.store.observers = [] →
        p.agenda.alarms = [] ∧
          (p.Rested → ∀ later : List (Event σ ω), (∀ event ∈ later, event.asks = false) →
            (run source p later).begun = p.begun)) ∧
      (p.store.observers ≠ [] → p.Rested → p.agenda.alarms ≠ [] ∨ p.fetching ≠ 0) := by
  intro p
  have valid : p.Valid := run_valid (ofSource_valid source) source events
  refine ⟨Agenda.length_alarms_le_one valid.keys, ?_, ?_⟩
  · intro empty
    refine ⟨valid.alarms_of_unobserved empty, ?_⟩
    intro rested later silent
    have asleep : p.Asleep := ⟨valid, empty, rested.1⟩
    exact (asleep.run source later silent).2
  · intro present rested
    rcases valid.observed present with armed | busy | working
    · left
      intro quiet
      have live := valid.keys
      rw [Agenda.keys_eq_nil.mpr quiet] at live
      cases timer : p.store.timer with
      | none => exact armed timer
      | some number => simp [timer] at live
    · right
      rw [valid.fetching, busy]
      decide
    · exact absurd rested working

/-- The timer of observers who left and came back fires while the first fetch is under way. It
begins no second fetch, and the next poll is armed when the first one settles. -/
example :
    let source : Source Unit :=
      { name := "", initial := (), degrade := fun _ _ => (), delay := fun _ => 5 }
    let p : Poller Unit Unit := run source (ofSource source)
      [.subscribe (), .fire, .enter, .unsubscribe 0, .subscribe (), .fire, .enter,
        .settle (.ok ()), .proceed 0, .proceed 0]
    p.Rested ∧ p.begun = 1 ∧ p.agenda.alarms = [⟨3, 5⟩] := by
  decide

end Watchdesk.Poller
