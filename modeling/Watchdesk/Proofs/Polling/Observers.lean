import Watchdesk.Proofs.Polling.Poller

/-!
# Those who observe a store

Observers come and go. Each of them gets the next number when it comes, so that the numbers of
those who are there grow in the order in which they came, and no number is ever given a second
time.
-/

namespace Watchdesk

namespace Store

variable {σ ω : Type} {s t u : Store σ ω}

/-- Some of those who observed a store have gone, others have come, and perhaps gone again, and
each of these got the next number. -/
def Joins (s t : Store σ ω) : Prop :=
  ∃ joined : List (Nat × ω), t.observers.Sublist (s.observers ++ joined) ∧
    joined.map Prod.fst = List.range' s.nextId joined.length ∧
    t.nextId = s.nextId + joined.length

theorem Joins.of_leaving (observers : t.observers.Sublist s.observers)
    (nextId : t.nextId = s.nextId) : Joins s t := by
  refine ⟨[], ?_, rfl, nextId⟩
  rw [List.append_nil]
  exact observers

theorem Joins.refl (s : Store σ ω) : Joins s s := .of_leaving (List.Sublist.refl _) rfl

theorem Joins.trans (first : Joins s t) (second : Joins t u) : Joins s u := by
  obtain ⟨early, before, numbers, next⟩ := first
  obtain ⟨late, after, more, last⟩ := second
  refine ⟨early ++ late, ?_, ?_, ?_⟩
  · rw [← List.append_assoc]
    exact after.trans (before.append_right late)
  · rw [List.map_append, numbers, more, next, List.length_append, List.range'_append_1]
  · rw [last, next, List.length_append, Nat.add_assoc]

/-- Whoever has a number that was given before was there before. -/
theorem Joins.known (joins : Joins s t) {o : Nat × ω} (member : o ∈ t.observers)
    (old : o.1 < s.nextId) : o ∈ s.observers := by
  obtain ⟨joined, observers, numbers, -⟩ := joins
  rcases List.mem_append.mp (observers.subset member) with earlier | late
  · exact earlier
  · have number : o.1 ∈ List.range' s.nextId joined.length :=
      numbers ▸ List.mem_map_of_mem late
    have bound := (List.mem_range'_1.mp number).1
    omega

theorem Joins.nextId_le (joins : Joins s t) : s.nextId ≤ t.nextId := by
  obtain ⟨joined, -, -, nextId⟩ := joins
  omega

/-- The numbers of the observers grow, and the next one is still to be given. -/
structure Numbered (s : Store σ ω) : Prop where
  inOrder : s.observers.Pairwise fun one other => one.1 < other.1
  given : ∀ o ∈ s.observers, o.1 < s.nextId

theorem Joins.numbered {source : Source σ} (joins : Joins (.ofSource source) t) : t.Numbered := by
  obtain ⟨joined, observers, numbers, nextId⟩ := joins
  have own : t.observers.Sublist joined := observers
  constructor
  · refine List.Pairwise.sublist own ?_
    rw [← List.pairwise_map (f := Prod.fst) (R := (· < ·)), numbers]
    exact List.pairwise_lt_range'
  · intro o member
    have number : o.1 ∈ List.range' 0 joined.length :=
      numbers ▸ List.mem_map_of_mem (own.subset member)
    have bound := (List.mem_range'_1.mp number).2
    have started : (ofSource source : Store σ ω).nextId = 0 := rfl
    omega

/-- The next number is that of none who is there. -/
theorem Numbered.filter_next (numbered : s.Numbered) :
    s.observers.filter (fun o => decide (o.1 ≠ s.nextId)) = s.observers := by
  apply List.filter_eq_self.mpr
  intro o member
  exact decide_eq_true (Nat.ne_of_lt (numbered.given o member))

/-! ## The operations of a store -/

theorem subscribe_eq (s : Store σ ω) (observer : ω) :
    (s.subscribe observer).1 = s.nextId ∧
      (s.subscribe observer).2.1.observers = s.observers ++ [(s.nextId, observer)] ∧
      (s.subscribe observer).2.1.nextId = s.nextId + 1 := by
  unfold subscribe
  dsimp only
  split
  · exact ⟨rfl, rfl, rfl⟩
  · exact ⟨rfl, rfl, rfl⟩

/-- Whoever joins others has nothing polled. -/
theorem subscribe_of_observed (present : s.observers ≠ []) (observer : ω) :
    s.subscribe observer =
      (s.nextId,
        { s with nextId := s.nextId + 1, observers := s.observers ++ [(s.nextId, observer)] },
        []) := by
  have several : (s.observers ++ [(s.nextId, observer)]).length ≠ 1 := by
    have some := List.length_pos_iff.mpr present
    rw [List.length_append, List.length_singleton]
    omega
  exact if_neg several

theorem unsubscribe_observers (s : Store σ ω) (id : Nat) :
    (s.unsubscribe id).1.observers = s.observers.filter fun o => o.1 ≠ id := by
  unfold unsubscribe
  dsimp only
  split
  · rfl
  · rfl

theorem unsubscribe_nextId (s : Store σ ω) (id : Nat) :
    (s.unsubscribe id).1.nextId = s.nextId := by
  unfold unsubscribe
  dsimp only
  split
  · rfl
  · rfl

/-! ## An observer that comes and goes -/

/-- The poll that the first observer has put on the agenda, by its number. -/
def firstPoll (s : Store σ ω) : List Nat := if s.observers = [] then [s.sequence + 1] else []

/-- A store that an observer has come to and left: the number of the observer is spent, and that of
a poll if nobody else was there. -/
def spent (s : Store σ ω) : Store σ ω :=
  { s with nextId := s.nextId + 1, sequence := s.sequence + s.firstPoll.length }

theorem subscribe_orders (s : Store σ ω) (untimed : s.observers = [] → s.timer = none)
    (observer : ω) : (s.subscribe observer).2.2 = s.firstPoll.map (.schedule · 0) := by
  unfold subscribe firstPoll
  by_cases alone : s.observers = []
  · simp [arm, alone, untimed alone]
  · simp [alone]

/-- Whoever comes and goes at once takes the poll along that they had put on the agenda. -/
theorem unsubscribe_subscribe (s : Store σ ω) (numbered : s.Numbered)
    (untimed : s.observers = [] → s.timer = none) (observer : ω) :
    (s.subscribe observer).2.1.unsubscribe s.nextId = (s.spent, s.firstPoll.map .cancel) := by
  by_cases alone : s.observers = []
  · simp [subscribe, unsubscribe, spent, firstPoll, arm, alone, untimed alone]
  · have left : (s.observers ++ [(s.nextId, observer)]).filter
        (fun o => decide (o.1 ≠ s.nextId)) = s.observers := by
      rw [List.filter_append, numbered.filter_next]
      simp
    rw [subscribe_of_observed alone]
    unfold unsubscribe spent firstPoll
    simp only [left, List.isEmpty_iff, alone, if_false]
    rfl

end Store

namespace Poller

variable {σ ω : Type}

theorem step_joins (source : Source σ) (p : Poller σ ω) (event : Event σ ω) :
    p.store.Joins (p.step source event).store := by
  cases event with
  | subscribe observer =>
    obtain ⟨-, observers, nextId⟩ := p.store.subscribe_eq observer
    refine ⟨[(p.store.nextId, observer)], ?_, rfl, nextId⟩
    rw [← observers]
    exact List.Sublist.refl _
  | unsubscribe id =>
    refine .of_leaving ?_ (p.store.unsubscribe_nextId id)
    show (p.store.unsubscribe id).1.observers.Sublist p.store.observers
    rw [Store.unsubscribe_observers]
    exact List.filter_sublist
  | poll => exact .refl _
  | enter =>
    simp only [step, enter, Store.startPoll]
    split
    · exact .refl _
    · split
      · exact .refl _
      · next begun =>
        split at begun
        · cases begun
        · cases begun
          exact .of_leaving (List.Sublist.refl _) rfl
  | pass span => exact .refl _
  | fire =>
    simp only [step, fire]
    split
    · exact .refl _
    · simp only [Store.fire]
      split
      · exact .of_leaving (List.Sublist.refl _) rfl
      · exact .refl _
  | settle outcome =>
    simp only [step, settle]
    split
    · exact .refl _
    · exact .of_leaving (List.Sublist.refl _) rfl
  | proceed round =>
    simp only [step, proceed]
    split
    · exact .refl _
    · simp only [follow, Store.rearm]
      split
      · exact .refl _
      · exact .of_leaving (List.Sublist.refl _) rfl
    · exact .refl _

theorem run_joins (source : Source σ) (p : Poller σ ω) (events : List (Event σ ω)) :
    p.store.Joins (run source p events).store := by
  induction events generalizing p with
  | nil => exact .refl _
  | cons event events ih => exact (step_joins source p event).trans (ih (p.step source event))

/-- In every run, observers have numbers that grow. -/
theorem run_numbered (source : Source σ) (events : List (Event σ ω)) :
    (run source (ofSource source) events).store.Numbered :=
  (run_joins source (ofSource source) events).numbered

end Poller

end Watchdesk
