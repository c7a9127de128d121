import Watchdesk.Proofs.Polling.Ledger

/-!
# Observers that come and go at once

The first observer of a store has it polled at once, and the last one to go takes that back. So
however many observers come and go at one instant, and in whatever order, what is on the agenda
afterwards is one poll that is due, or nothing if nobody has stayed; and when the work that is due
is done, that poll begins one fetch.
-/

namespace Watchdesk.Poller

variable {σ ω : Type} {p q : Poller σ ω}

/-- An observer comes or goes. -/
def Event.flaps : Event σ ω → Bool
  | .subscribe _ | .unsubscribe _ => true
  | .poll | .enter | .pass _ | .fire | .settle _ | .proceed _ => false

/-- Work is done that is due: a timer fires, or a call to poll is let in. -/
def Event.isDue : Event σ ω → Bool
  | .enter | .fire => true
  | .subscribe _ | .unsubscribe _ | .poll | .pass _ | .settle _ | .proceed _ => false

/-- Work goes on: a timer fires, a call to poll is let in, a fetch settles, or a round goes on. -/
def Event.isWork : Event σ ω → Bool
  | .enter | .fire | .settle _ | .proceed _ => true
  | .subscribe _ | .unsubscribe _ | .poll | .pass _ => false

/-- Nothing that is due is left to do: no call to poll waits, and no live timer is due. -/
def Spent (p : Poller σ ω) : Prop :=
  p.calls = 0 ∧ ∀ alarm ∈ p.agenda.alarms, p.agenda.now < alarm.due

instance (p : Poller σ ω) : Decidable p.Spent :=
  inferInstanceAs (Decidable (_ ∧ _))

/-- A store at one instant, after it had no observers and no fetch under way: all polls on its
agenda are due, and there is one if somebody observes it. -/
structure Flapped (p q : Poller σ ω) : Prop where
  valid : q.Valid
  idle : q.store.busy = false
  begun : q.begun = p.begun
  calls : q.calls = p.calls
  rounds : q.rounds = p.rounds
  due : ∀ alarm ∈ q.agenda.alarms, alarm.due = q.agenda.now
  polled : q.store.observers ≠ [] → q.agenda.alarms ≠ []

theorem Flapped.subscribe (flapped : Flapped p q) (observer : ω) :
    Flapped p (q.follow (q.store.subscribe observer).2) := by
  have valid := subscribe_valid flapped.valid observer
  rcases subscribe_cases q.store observer with armed | ⟨present, same⟩
  · rw [armed] at valid ⊢
    have alarms := flapped.valid.arm_alarms
      { q.store with
        nextId := q.store.nextId + 1
        observers := q.store.observers ++ [(q.store.nextId, observer)] } rfl rfl 0
    exact
      { valid
        idle := flapped.idle
        begun := flapped.begun
        calls := flapped.calls
        rounds := flapped.rounds
        due := by
          intro alarm member
          rw [alarms, List.mem_singleton] at member
          rw [member]
          exact (Agenda.obeyAll_now _ _).symm
        polled := by
          intro _
          rw [alarms]
          exact List.cons_ne_nil _ _ }
  · rw [same] at valid ⊢
    exact { flapped with valid, polled := fun _ => flapped.polled present }

theorem Flapped.unsubscribe (flapped : Flapped p q) (id : Nat) :
    Flapped p (q.follow (q.store.unsubscribe id)) := by
  have valid := unsubscribe_valid flapped.valid id
  rcases unsubscribe_cases q.store id with released | ⟨present, left, some, same⟩
  · rw [released] at valid ⊢
    have alarms := valid.alarms_of_unobserved rfl
    exact
      { valid
        idle := flapped.idle
        begun := flapped.begun
        calls := flapped.calls
        rounds := flapped.rounds
        due := by
          rw [alarms]
          nofun
        polled := fun present => absurd rfl present }
  · rw [same] at valid ⊢
    exact { flapped with valid, polled := fun _ => flapped.polled present }

theorem Flapped.run (flapped : Flapped p q) (source : Source σ) {events : List (Event σ ω)}
    (flaps : ∀ event ∈ events, event.flaps) : Flapped p (run source q events) := by
  induction events generalizing q with
  | nil => exact flapped
  | cons event events ih =>
    obtain ⟨first, others⟩ := List.forall_mem_cons.mp flaps
    refine ih ?_ others
    cases event with
    | subscribe observer => exact flapped.subscribe observer
    | unsubscribe id => exact flapped.unsubscribe id
    | _ => cases first

/-! ## The work that is due -/

/-- A store while the work of one instant is done, after it had begun so many fetches. What is due
comes to one fetch if a poll is wanted, and to nothing if not. -/
structure Serving (begun : Nat) (wanted : Prop) (q : Poller σ ω) : Prop where
  due : ∀ alarm ∈ q.agenda.alarms, alarm.due = q.agenda.now
  begun : q.begun = begun + q.store.busy.toNat
  served : wanted → q.store.busy = true ∨ q.agenda.alarms ≠ [] ∨ q.calls ≠ 0
  spared : ¬ wanted → q.store.busy = false ∧ q.agenda.alarms = [] ∧ q.calls = 0

theorem Flapped.serving (flapped : Flapped p q) :
    Serving p.begun (¬ (q.store.observers = [] ∧ p.calls = 0)) q where
  due := flapped.due
  begun := by rw [flapped.begun, flapped.idle]; rfl
  served := by
    intro wanted
    rcases not_and_or.mp wanted with present | called
    · exact Or.inr (Or.inl (flapped.polled present))
    · exact Or.inr (Or.inr (flapped.calls ▸ called))
  spared := by
    intro unwanted
    obtain ⟨unobserved, uncalled⟩ := not_not.mp unwanted
    exact ⟨flapped.idle, flapped.valid.alarms_of_unobserved unobserved,
      flapped.calls.trans uncalled⟩

variable {begun : Nat} {wanted : Prop}

/-- The first call that is let in begins the fetch, and the others find it under way. -/
theorem Serving.enter (serving : Serving begun wanted q) : Serving begun wanted q.enter := by
  by_cases none : q.calls = 0
  · have nothing : q.enter = q := by simp [Poller.enter, none]
    rw [nothing]
    exact serving
  · have asked : wanted := by
      by_contra unwanted
      exact none (serving.spared unwanted).2.2
    cases busy : q.store.busy with
    | true =>
      rw [enter_of_busy busy]
      exact
        { serving with
          served := fun _ => Or.inl busy
          spared := fun unwanted => absurd asked unwanted }
    | false =>
      have same := serving.begun
      rw [busy] at same
      simp only [Poller.enter, none, if_false, startPoll_of_idle busy]
      exact
        { due := serving.due
          begun := congrArg (· + 1) same
          served := fun _ => Or.inl rfl
          spared := fun unwanted => absurd asked unwanted }

theorem fire_busy (s : Store σ ω) (number : Nat) : (s.fire number).busy = s.busy := by
  unfold Store.fire
  split <;> rfl

/-- A timer that fires leaves a call to poll in its place. -/
theorem Serving.fire (serving : Serving begun wanted q) : Serving begun wanted q.fire := by
  unfold Poller.fire
  split
  · exact serving
  · next alarm agenda taken =>
    obtain ⟨alarms, -, now⟩ := Agenda.takeDue_eq_some taken
    have asked : wanted := by
      by_contra unwanted
      obtain ⟨-, none, -⟩ := serving.spared unwanted
      exact List.cons_ne_nil _ _ (alarms.symm.trans none)
    exact
      { due := by
          intro other member
          rw [now]
          refine serving.due other ?_
          rw [alarms]
          exact List.mem_cons_of_mem _ member
        begun := by rw [fire_busy]; exact serving.begun
        served := fun _ => Or.inr (Or.inr (Nat.succ_ne_zero _))
        spared := fun unwanted => absurd asked unwanted }

theorem Serving.run (serving : Serving begun wanted q) (source : Source σ)
    {turns : List (Event σ ω)} (dues : ∀ turn ∈ turns, turn.isDue) :
    Serving begun wanted (run source q turns) := by
  induction turns generalizing q with
  | nil => exact serving
  | cons turn turns ih =>
    obtain ⟨first, others⟩ := List.forall_mem_cons.mp dues
    refine ih ?_ others
    cases turn with
    | enter => exact serving.enter
    | fire => exact serving.fire
    | _ => cases first

/-- When the work is done, no timer is live, and the fetch has begun if a poll was wanted. -/
theorem Serving.spent (serving : Serving begun wanted q) (spent : q.Spent) [Decidable wanted] :
    q.agenda.alarms = [] ∧ q.begun = begun + if wanted then 1 else 0 := by
  obtain ⟨uncalled, resting⟩ := spent
  have none : q.agenda.alarms = [] := by
    refine List.eq_nil_iff_forall_not_mem.mpr fun alarm member => ?_
    have later := resting alarm member
    have now := serving.due alarm member
    omega
  refine ⟨none, ?_⟩
  rw [serving.begun]
  split
  · next asked =>
    obtain busy | armed | called := serving.served asked
    · rw [busy]
      rfl
    · exact absurd none armed
    · exact absurd uncalled called
  · next unwanted =>
    rw [(serving.spared unwanted).1]
    rfl

theorem enter_calls (p : Poller σ ω) : p.enter.calls = p.calls - 1 := by
  unfold Poller.enter
  split
  · next none => rw [none]
  · split <;> rfl

theorem enter_agenda (p : Poller σ ω) : p.enter.agenda = p.agenda := by
  unfold Poller.enter
  split
  · rfl
  · split <;> rfl

/-- Calls to poll are let in until none waits. -/
theorem enters_spent {p : Poller σ ω} (none : p.agenda.alarms = []) (source : Source σ) :
    (run source p (List.replicate p.calls .enter)).Spent := by
  generalize calls : p.calls = count
  induction count generalizing p with
  | zero =>
    refine ⟨calls, ?_⟩
    rw [run, List.replicate_zero, List.foldl_nil, none]
    nofun
  | succ count ih =>
    rw [List.replicate_succ, run_cons]
    refine ih ?_ ?_
    · exact (congrArg Agenda.alarms p.enter_agenda).trans none
    · exact p.enter_calls.trans (Nat.sub_eq_of_eq_add calls)

/-- The work of one instant can be done to its end. -/
theorem Flapped.exists_spent (flapped : Flapped p q) (source : Source σ) :
    ∃ turns : List (Event σ ω), (∀ turn ∈ turns, turn.isDue) ∧
      (Poller.run source q turns).Spent := by
  have fired : q.fire.agenda.alarms = [] := by
    have few := Agenda.length_alarms_le_one flapped.valid.keys
    unfold Poller.fire Agenda.takeDue
    cases alarms : q.agenda.alarms with
    | nil => exact alarms
    | cons alarm rest =>
      have due := flapped.due alarm (by simp [alarms])
      have none : rest = [] := by simpa [alarms] using few
      simp [due, none]
  refine ⟨.fire :: List.replicate q.fire.calls .enter, ?_, enters_spent fired source⟩
  refine List.forall_mem_cons.mpr ⟨rfl, fun turn member => ?_⟩
  rw [List.eq_of_mem_replicate member]
  rfl

/-! ## The whole instant -/

/-- Nothing on the agenda is due. -/
def Resting (p : Poller σ ω) : Prop := ∀ alarm ∈ p.agenda.alarms, p.agenda.now < alarm.due

/-- Where the one poll of a store is that has got an observer, after the store was at `p`. -/
inductive Awaits (p q : Poller σ ω) : Prop where
  /-- On the agenda, and due. -/
  | armed (number : Nat) (alarms : q.agenda.alarms = [⟨number, q.agenda.now⟩])
      (calls : q.calls = 0) (idle : q.store.busy = false) (begun : q.begun = p.begun)
      (rounds : p.rounds = [] → q.rounds = [])
  /-- Fired, and not let in yet. -/
  | called (resting : q.Resting) (calls : q.calls = 1) (idle : q.store.busy = false)
      (begun : q.begun = p.begun) (rounds : p.rounds = [] → q.rounds = [])
  /-- Let in. -/
  | begun (resting : q.Resting) (calls : q.calls = 0) (begun : q.begun = p.begun + 1)
  /-- Put off, because a round has ended that was open before. -/
  | putOff (resting : q.Resting) (calls : q.calls = 0) (idle : q.store.busy = false)
      (begun : q.begun = p.begun) (rounds : p.rounds ≠ [])

theorem fire_of_resting (resting : p.Resting) : p.fire = p := by
  unfold Poller.fire Agenda.takeDue
  cases alarms : p.agenda.alarms with
  | nil => rfl
  | cons alarm rest =>
    have later := resting alarm (by simp [alarms])
    simp only
    rw [if_neg (Nat.not_le.mpr later)]

theorem enter_of_no_calls (none : p.calls = 0) : p.enter = p := if_pos none

theorem settle_of_idle (valid : p.Valid) (idle : p.store.busy = false) (source : Source σ)
    (outcome : Except Fault σ) : p.settle source outcome = p := by
  refine if_pos ?_
  rw [valid.fetching, idle]
  rfl

/-- A round that goes on changes nothing else, but at its end it may put the next poll off. -/
theorem proceed_cases (valid : p.Valid) {source : Source σ} (pauses : ∀ s, 0 < source.delay s)
    (round : Nat) :
    (∃ rounds, p.proceed source round = { p with rounds } ∧ (p.rounds = [] → rounds = [])) ∨
      p.rounds ≠ [] ∧ ∃ store agenda rounds,
        p.proceed source round = { p with store, agenda, rounds } ∧
          store.busy = p.store.busy ∧ ∀ alarm ∈ agenda.alarms, agenda.now < alarm.due := by
  unfold Poller.proceed
  split
  · exact .inl ⟨p.rounds, rfl, id⟩
  · next snapshot found =>
    have some : p.rounds ≠ [] := by
      intro none
      simp [none] at found
    unfold Store.rearm
    split
    · exact .inl ⟨_, rfl, fun none => absurd none some⟩
    · have alarms := valid.arm_alarms p.store rfl rfl (source.delay snapshot)
      refine .inr ⟨some, _, _, _, rfl, rfl, ?_⟩
      intro alarm member
      have only := List.mem_singleton.mp (alarms ▸ member)
      have same : (p.agenda.obeyAll (p.store.arm (source.delay snapshot)).2).now = p.agenda.now :=
        Agenda.obeyAll_now _ _
      rw [only]
      exact same ▸ Nat.lt_add_of_pos_right (pauses snapshot)
  · next snapshot observer waiting found =>
    exact .inl ⟨_, rfl, fun none => by simp [none] at found⟩

theorem Awaits.step (awaits : Awaits p q) (valid : q.Valid) {source : Source σ}
    (pauses : ∀ s, 0 < source.delay s) {event : Event σ ω} (work : event.isWork) :
    Awaits p (q.step source event) := by
  have still := awaits
  cases event with
  | enter =>
    show Awaits p q.enter
    cases awaits with
    | called resting calls idle begun rounds =>
      have enters : q.enter =
          { q with
            store := { q.store with busy := true }
            calls := 0
            fetching := q.fetching + 1
            begun := q.begun + 1 } := by
        simp [Poller.enter, calls, startPoll_of_idle idle]
      rw [enters]
      exact .begun resting rfl (congrArg (· + 1) begun)
    | armed number alarms calls => rwa [enter_of_no_calls calls]
    | begun resting calls => rwa [enter_of_no_calls calls]
    | putOff resting calls => rwa [enter_of_no_calls calls]
  | fire =>
    show Awaits p q.fire
    cases awaits with
    | armed number alarms calls idle begun rounds =>
      have fires : q.fire =
          { q with
            store := q.store.fire number
            agenda := { q.agenda with alarms := [] }
            calls := 1 } := by
        simp [Poller.fire, Agenda.takeDue, alarms, calls]
      rw [fires]
      exact .called (List.forall_mem_nil _) rfl ((fire_busy q.store number).trans idle) begun rounds
    | called resting => rwa [fire_of_resting resting]
    | begun resting => rwa [fire_of_resting resting]
    | putOff resting => rwa [fire_of_resting resting]
  | settle outcome =>
    show Awaits p (q.settle source outcome)
    cases awaits with
    | begun resting calls begun =>
      unfold Poller.settle
      split
      · exact still
      · exact .begun resting calls begun
    | armed number alarms calls idle => rwa [settle_of_idle valid idle]
    | called resting calls idle => rwa [settle_of_idle valid idle]
    | putOff resting calls idle => rwa [settle_of_idle valid idle]
  | proceed round =>
    show Awaits p (q.proceed source round)
    obtain ⟨left, same, none⟩ | ⟨some, store, agenda, left, same, busy, later⟩ :=
      proceed_cases valid pauses round
    · rw [same]
      cases awaits with
      | armed number alarms calls idle begun rounds =>
        exact .armed number alarms calls idle begun (none ∘ rounds)
      | called resting calls idle begun rounds =>
        exact .called resting calls idle begun (none ∘ rounds)
      | begun resting calls begun => exact .begun resting calls begun
      | putOff resting calls idle begun rounds => exact .putOff resting calls idle begun rounds
    · rw [same]
      cases awaits with
      | armed number alarms calls idle begun rounds =>
        exact .putOff later calls (busy.trans idle) begun fun closed => some (rounds closed)
      | called resting calls idle begun rounds =>
        exact .called later calls (busy.trans idle) begun fun closed => absurd (rounds closed) some
      | begun resting calls begun => exact .begun later calls begun
      | putOff resting calls idle begun rounds =>
        exact .putOff later calls (busy.trans idle) begun rounds
  | _ => cases work

theorem Awaits.run (awaits : Awaits p q) (valid : q.Valid) {source : Source σ}
    (pauses : ∀ s, 0 < source.delay s) {turns : List (Event σ ω)}
    (work : ∀ turn ∈ turns, turn.isWork) : Awaits p (run source q turns) := by
  induction turns generalizing q with
  | nil => exact awaits
  | cons turn turns ih =>
    obtain ⟨first, others⟩ := List.forall_mem_cons.mp work
    exact ih (awaits.step valid pauses first) (step_valid valid source turn) others

/-- When the work is done, the poll has begun its fetch, unless it was put off. -/
theorem Awaits.begun_of_spent (awaits : Awaits p q) (spent : q.Spent) :
    q.begun ≤ p.begun + 1 ∧ (p.rounds = [] → q.begun = p.begun + 1) := by
  obtain ⟨uncalled, resting⟩ := spent
  cases awaits with
  | armed number alarms calls idle begun rounds =>
    have later := resting ⟨number, q.agenda.now⟩ (by simp [alarms])
    exact absurd later (Nat.lt_irrefl _)
  | called resting calls idle begun rounds =>
    rw [calls] at uncalled
    cases uncalled
  | begun resting calls begun => exact ⟨Nat.le_of_eq begun, fun _ => begun⟩
  | putOff resting calls idle begun rounds =>
    exact ⟨Nat.le_succ_of_le (Nat.le_of_eq begun), fun closed => absurd closed rounds⟩

theorem Flapped.awaits (flapped : Flapped p q) (uncalled : p.calls = 0)
    (present : q.store.observers ≠ []) : Awaits p q := by
  have few := Agenda.length_alarms_le_one flapped.valid.keys
  cases alarms : q.agenda.alarms with
  | nil => exact absurd alarms (flapped.polled present)
  | cons alarm rest =>
    have due := flapped.due alarm (by simp [alarms])
    have none : rest = [] := by simpa [alarms] using few
    refine .armed alarm.key ?_ (flapped.calls.trans uncalled) flapped.idle flapped.begun
      fun closed => flapped.rounds.trans closed
    rw [alarms, none, ← due]

theorem Event.asks_of_isWork {event : Event σ ω} (work : event.isWork) : event.asks = false := by
  cases event <;> first | rfl | cases work

/-- Take any store that nobody observes, with no fetch under way, and let observers come and go at
one instant, as many as you like and in any order. When the calls are let in and the timers have
fired that are due then, the store has no live timer, and it has begun one fetch if somebody
observes it and none if not. (A call to poll that waited before all this has its fetch in any case.)

If nobody observes it, that is so whatever else goes on at that instant. If somebody does, and the
pauses of the source are not empty, then the fetch may also settle and its round go on: it is the
only one at that instant. Where a round was open before all this, its end may put the fetch off
until after the pause. Whoever went last has left no live timer even before the work is done. -/
theorem flapping_coalesced (source : Source σ) (history flaps : List (Event σ ω))
    (unobserved : (run source (ofSource source) history).store.observers = [])
    (idle : (run source (ofSource source) history).fetching = 0)
    (flapping : ∀ event ∈ flaps, event.flaps) :
    let p := run source (ofSource source) history
    let q := run source p flaps
    (∃ turns : List (Event σ ω), (∀ turn ∈ turns, turn.isDue) ∧ (run source q turns).Spent) ∧
      (∀ turns : List (Event σ ω), (∀ turn ∈ turns, turn.isDue) →
        let r := run source q turns
        r.Spent → r.agenda.alarms = [] ∧
          r.begun = p.begun + if q.store.observers = [] ∧ p.calls = 0 then 0 else 1) ∧
      (q.store.observers = [] → q.agenda.alarms = []) ∧
      (p.calls = 0 → ∀ turns : List (Event σ ω), (∀ turn ∈ turns, turn.isWork) →
        let r := run source q turns
        (q.store.observers = [] → r.agenda.alarms = [] ∧ r.begun = p.begun) ∧
        (q.store.observers ≠ [] → (∀ s, 0 < source.delay s) → r.Spent →
          r.begun ≤ p.begun + 1 ∧ (p.rounds = [] → r.begun = p.begun + 1))) := by
  intro p q
  have valid : p.Valid := run_valid (ofSource_valid source) source history
  have quiet := valid.alarms_of_unobserved unobserved
  have start : Flapped p p :=
    { valid
      idle := Bool.toNat_eq_zero.mp (valid.fetching.symm.trans idle)
      begun := rfl
      calls := rfl
      rounds := rfl
      due := by rw [quiet]; nofun
      polled := fun present => absurd unobserved present }
  have flapped : Flapped p q := start.run source flapping
  refine ⟨flapped.exists_spent source, ?_, flapped.valid.alarms_of_unobserved, ?_⟩
  · intro turns dues r spent
    have served := (flapped.serving.run source dues).spent spent
    rwa [ite_not] at served
  · intro uncalled turns work r
    constructor
    · intro none
      have asleep : q.Asleep := ⟨flapped.valid, none, flapped.calls.trans uncalled⟩
      obtain ⟨still, same⟩ :=
        asleep.run source turns fun turn member => Event.asks_of_isWork (work turn member)
      exact ⟨still.valid.alarms_of_unobserved still.unobserved, same.trans flapped.begun⟩
    · intro present pauses spent
      exact ((flapped.awaits uncalled present).run flapped.valid pauses work).begun_of_spent spent

/-- An observer joins, leaves and joins again, and another one comes and goes: one fetch begins, and
it is the only one at that instant although it settles at once. -/
theorem flapping_coalesced_of_rejoining :
    let source : Source Nat :=
      { name := "", initial := 0, degrade := fun s _ => s, delay := fun s => s + 1 }
    let history : List (Event Nat Char) :=
      [.subscribe 'a', .fire, .enter, .settle (.ok 7), .proceed 0, .proceed 0, .pass 3,
        .unsubscribe 0]
    let flaps : List (Event Nat Char) :=
      [.subscribe 'a', .unsubscribe 1, .subscribe 'a', .subscribe 'b', .unsubscribe 3]
    let turns : List (Event Nat Char) :=
      [.fire, .enter, .settle (.ok 8), .proceed 0, .proceed 0, .fire, .enter]
    let p := run source (ofSource source) history
    let r := run source (run source p flaps) turns
    p.store.observers = [] ∧ p.fetching = 0 ∧ r.Spent ∧ p.begun = 1 ∧ r.begun = 2 := by
  intro source history flaps turns p r
  have unobserved : p.store.observers = [] := by decide +kernel
  have idle : p.fetching = 0 := by decide +kernel
  have uncalled : p.calls = 0 := by decide +kernel
  have closed : p.rounds = [] := by
    have none : p.rounds.length = 0 := by decide +kernel
    exact List.length_eq_zero_iff.mp none
  have present : (run source p flaps).store.observers ≠ [] := by decide +kernel
  have spent : r.Spent := by decide +kernel
  have flapping : ∀ event ∈ flaps, event.flaps := by simp [flaps, Event.flaps]
  have work : ∀ turn ∈ turns, turn.isWork := by simp [turns, Event.isWork]
  have fetched : p.begun = 1 := by decide +kernel
  have pauses : ∀ s, 0 < source.delay s := Nat.succ_pos
  obtain ⟨-, -, -, worked⟩ := flapping_coalesced source history flaps unobserved idle flapping
  subst r p
  obtain ⟨-, observed⟩ := worked uncalled turns work
  obtain ⟨-, one⟩ := observed present pauses spent
  rw [fetched] at one
  exact ⟨unobserved, idle, spent, fetched, one closed⟩

/-- An observer that goes and comes again when it gets a snapshot has its poll put off at the end of
the round: no fetch begins. Where the pause after a snapshot is empty, a fetch that settles at once
is followed by another one at the same instant. -/
theorem flapping_in_a_round_or_without_pauses :
    (let source : Source Nat :=
        { name := "", initial := 0, degrade := fun s _ => s, delay := fun s => s }
      let history : List (Event Nat Char) :=
        [.subscribe 'a', .fire, .enter, .settle (.ok 7), .proceed 0, .unsubscribe 0]
      let p := run source (ofSource source) history
      let q := run source p [.subscribe 'a']
      let r := run source q [.proceed 0, .fire, .enter]
      p.store.observers = [] ∧ p.fetching = 0 ∧ q.store.observers ≠ [] ∧ r.Rested ∧ r.Spent ∧
        r.begun = p.begun) ∧
    (let source : Source Nat :=
        { name := "", initial := 0, degrade := fun s _ => s, delay := fun s => s }
      let p : Poller Nat Char := ofSource source
      let q := run source p [.subscribe 'a']
      let r := run source q
        [.fire, .enter, .settle (.ok 0), .proceed 0, .proceed 0, .fire, .enter]
      p.store.observers = [] ∧ p.fetching = 0 ∧ p.Rested ∧ r.Spent ∧ r.begun = p.begun + 2) := by
  decide +kernel

end Watchdesk.Poller
