import Watchdesk.Proofs.Desk.Pulse

/-!
# Those who serve, and those whom they leave

Whoever serves keeps an observer at each store, under a number that nobody else ever has there. So
it can be told which observers of a store are those of others, and whoever goes leaves exactly
these behind. If the port is not free when somebody comes to serve, nothing but a few numbers tells
afterwards that they were there.
-/

namespace Watchdesk

/-- The observer that somebody who serves keeps at a store, by its number. -/
def Shift.observer (s : Shift) : Feed → Nat
  | .job => s.jobObserver
  | .health => s.healthObserver

/-- What the observers of those who serve do. -/
def Feed.servant : Feed → Observer
  | .job => .announcer
  | .health => .keeper

namespace Desk

/-- A desk as it may be at some time of some life. -/
def Reachable (settings : Settings) (d : Desk) : Prop :=
  ∃ hooked events, d = (ofSettings settings hooked).live events

/-- The shift of somebody who comes to serve now. -/
def nextShift (d : Desk) (caller : Caller) : Shift := ⟨caller, d.jobs.nextId, d.health.nextId⟩

/-- Those who observe a store and are not kept there by somebody who serves. -/
def others (d : Desk) (feed : Feed) : List (Nat × Observer) :=
  (d.store feed).observers.filter fun o => o.1 ∉ d.shifts.map fun s => s.observer feed

/-- A desk that somebody has come to and left. -/
def spent (d : Desk) : Desk := { d with jobs := d.jobs.spent, health := d.health.spent }

variable {settings : Settings} {feed : Feed} {d e : Desk}

/-! ## What holds at all times -/

theorem Reachable.live (reachable : d.Reachable settings) (events : List Event) :
    (d.live events).Reachable settings := by
  obtain ⟨hooked, earlier, rfl⟩ := reachable
  refine ⟨hooked, earlier ++ events, ?_⟩
  rw [live_append]

theorem Reachable.step (reachable : d.Reachable settings) (event : Event) :
    (d.step event).Reachable settings := reachable.live [event]

/-- What holds at the beginning of every life, and after an event if it held before, holds at all
times. -/
theorem Reachable.induction {holds : Desk → Prop} (reachable : d.Reachable settings)
    (begins : ∀ hooked, holds (ofSettings settings hooked))
    (goesOn : ∀ e event, e.Reachable settings → holds e → holds (e.step event)) : holds d := by
  have lives (events : List Event) {e : Desk} (known : e.Reachable settings) (now : holds e) :
      holds (e.live events) := by
    induction events generalizing e with
    | nil => exact now
    | cons event events ih => exact ih (known.step event) (goesOn e event known now)
  obtain ⟨hooked, events, rfl⟩ := reachable
  exact lives events ⟨hooked, [], rfl⟩ (begins hooked)

theorem Reachable.orderly (reachable : d.Reachable settings) : Orderly settings d := by
  obtain ⟨hooked, events, rfl⟩ := reachable
  exact (ofSettings_orderly settings hooked).moves (live_moves _ events)

theorem Reachable.poised (reachable : d.Reachable settings) (feed : Feed) : Poised feed d := by
  obtain ⟨hooked, events, rfl⟩ := reachable
  exact live_poised settings hooked feed events

theorem Reachable.numbered (reachable : d.Reachable settings) (feed : Feed) :
    (d.store feed).Numbered := by
  obtain ⟨hooked, events, rfl⟩ := reachable
  obtain ⟨part, shows⟩ := live_shows settings hooked feed events
  rw [← shows.store]
  exact Poller.run_numbered (feed.source settings.polling) part

/-- Whatever a desk does, new observers get new numbers. -/
theorem Reachable.joins (reachable : d.Reachable settings) (moves : Moves d e) (feed : Feed) :
    (d.store feed).Joins (e.store feed) := by
  have orderly := reachable.orderly
  obtain ⟨hooked, events, rfl⟩ := reachable
  obtain ⟨part, shows⟩ := live_shows settings hooked feed events
  have valid := Poller.run_valid (Poller.ofSource_valid (feed.source settings.polling))
    (feed.source settings.polling) part
  obtain ⟨more, shown⟩ := shows.moves moves orderly valid
  rw [← shows.store, ← shown.store]
  exact Poller.run_joins _ _ more

/-! ## Coming and going -/

theorem unsubscribe_observers (d : Desk) (other : Feed) (id : Nat) (feed : Feed) :
    ((d.unsubscribe other id).store feed).observers =
      if other = feed then (d.store feed).observers.filter fun o => o.1 ≠ id
      else (d.store feed).observers := by
  by_cases same : other = feed
  · subst same
    rw [if_pos rfl]
    show ((d.follow other _).store other).observers = _
    rw [follow_store]
    exact Store.unsubscribe_observers _ id
  · rw [if_neg same]
    have kept : (d.unsubscribe other id).store feed = d.store feed :=
      (store_of_same rfl rfl feed).trans (store_withStore_of_ne same d _)
    rw [kept]

/-- Whoever goes lets their own observers go. -/
theorem unobserve_observers (d : Desk) (s : Shift) (feed : Feed) :
    ((d.unobserve s.jobObserver s.healthObserver).store feed).observers =
      (d.store feed).observers.filter fun o => o.1 ≠ s.observer feed := by
  unfold unobserve
  rw [unsubscribe_observers, unsubscribe_observers]
  cases feed with
  | job => rfl
  | health => rfl

/-- All who serve let their own observers go. -/
theorem endShifts_observers (shifts : List Shift) (d : Desk) (feed : Feed) :
    ((shifts.foldl endShift d).store feed).observers =
      (d.store feed).observers.filter fun o => o.1 ∉ shifts.map fun s => s.observer feed := by
  induction shifts generalizing d with
  | nil =>
    symm
    apply List.filter_eq_self.mpr
    intro o member
    rfl
  | cons shift shifts ih =>
    have left : (d.endShift shift).store feed =
        (d.unobserve shift.jobObserver shift.healthObserver).store feed :=
      store_of_same rfl rfl feed
    rw [List.foldl_cons, ih, left, unobserve_observers, List.filter_filter]
    apply List.filter_congr
    intro o member
    simp [Bool.and_comm]

theorem shutDown_observers (d : Desk) (feed : Feed) :
    (d.shutDown.store feed).observers = d.others feed := by
  have shut : Desk.store { d with closed := true, shifts := [] } feed = d.store feed :=
    store_of_same rfl rfl feed
  unfold shutDown others
  rw [endShifts_observers, shut]

/-- Both stores are observed by whoever comes to serve. -/
theorem observe_store (d : Desk) (feed : Feed) :
    (d.observe.2.2.store feed).nextId = (d.store feed).nextId + 1 ∧
      (d.observe.2.2.store feed).observers =
        (d.store feed).observers ++ [((d.store feed).nextId, feed.servant)] := by
  cases feed with
  | job =>
    obtain ⟨-, observers, nextId⟩ := d.jobs.subscribe_eq .announcer
    exact ⟨nextId, observers⟩
  | health =>
    obtain ⟨-, observers, nextId⟩ := d.health.subscribe_eq .keeper
    exact ⟨nextId, observers⟩

/-! ## Coming to serve -/

/-- Somebody has the port on which the interface is to be offered, be it an outsider or one who
serves already. -/
def portBlocked (d : Desk) (taken : Option Nat) : Bool :=
  d.settings.interface.blocked fun port => taken == some port || !d.shifts.isEmpty

/-- No timer has the number of the poll that a first observer would put on the agenda. -/
theorem Poised.firstPoll_fresh (poised : Poised feed d) :
    ∀ number ∈ (d.store feed).firstPoll, .poll feed number ∉ d.agenda.keys := by
  intro number first listed
  have next : number = (d.store feed).sequence + 1 := by
    unfold Store.firstPoll at first
    split at first
    · exact List.mem_singleton.mp first
    · cases first
  obtain ⟨alarm, member, key⟩ := List.mem_map.mp listed
  have own : number ∈ (d.timers feed).map Alarm.key := by
    refine List.mem_map.mpr ⟨⟨number, alarm.due⟩, ?_, rfl⟩
    refine List.mem_filterMap.mpr ⟨alarm, member, ?_⟩
    simp [key, Duty.pollOf]
  rw [poised.timers, Option.mem_toList] at own
  have bound := poised.numbered number own
  omega

/-- Those who come to both stores and go at once leave everything as it was, but for numbers. -/
theorem Reachable.unobserve_observe (reachable : d.Reachable settings) :
    d.observe.2.2.unobserve d.jobs.nextId d.health.nextId = d.spent := by
  let polls : List Duty :=
    d.jobs.firstPoll.map (.poll .job) ++ d.health.firstPoll.map (.poll .health)
  have fresh : ∀ poll ∈ polls, poll ∉ d.agenda.keys := by
    intro poll member
    rcases List.mem_append.mp member with own | own
    · obtain ⟨number, first, rfl⟩ := List.mem_map.mp own
      exact (reachable.poised .job).firstPoll_fresh number first
    · obtain ⟨number, first, rfl⟩ := List.mem_map.mp own
      exact (reachable.poised .health).firstPoll_fresh number first
  have withdrawn := d.agenda.obeyAll_withdraw 0 fresh
  have untimedJobs := (reachable.poised .job).untimed
  have untimedHealth := (reachable.poised .health).untimed
  -- What the stores order when the observers come, and when they go.
  have jobCome := d.jobs.subscribe_orders untimedJobs .announcer
  have healthCome := d.health.subscribe_orders untimedHealth .keeper
  have jobGone := d.jobs.unsubscribe_subscribe (reachable.numbered .job) untimedJobs .announcer
  have healthGone :=
    d.health.unsubscribe_subscribe (reachable.numbered .health) untimedHealth .keeper
  simp only [polls, List.map_append, Agenda.obeyAll_append, List.map_map] at withdrawn
  simp only [observe, unobserve, subscribe, unsubscribe, follow, withStore, order, store]
  rw [jobGone, healthGone, jobCome, healthCome]
  simp only [List.map_map]
  exact congrArg (fun agenda : Agenda Duty =>
    { d with jobs := d.jobs.spent, health := d.health.spent, agenda }) withdrawn

theorem observe_spares (d : Desk) : d.observe.2.2.settings = d.settings ∧
    d.observe.2.2.shifts = d.shifts ∧ d.observe.2.2.closed = d.closed := ⟨rfl, rfl, rfl⟩

theorem serve_eq (d : Desk) (caller : Caller) (taken : Option Nat) :
    d.serve caller taken =
      if d.portBlocked taken then
        (d.observe.2.2.unobserve d.jobs.nextId d.health.nextId).tell
          (.served caller (.error (portTaken d.settings.interface.port)))
      else if d.closed then d.observe.2.2.endShift (d.nextShift caller)
      else { d.observe.2.2 with shifts := d.shifts ++ [d.nextShift caller] } := by
  have jobObserver : d.observe.1 = d.jobs.nextId := (d.jobs.subscribe_eq .announcer).1
  have healthObserver : d.observe.2.1 = d.health.nextId := (d.health.subscribe_eq .keeper).1
  obtain ⟨settings, shifts, closed⟩ := d.observe_spares
  unfold serve portBlocked nextShift
  dsimp only
  rw [jobObserver, healthObserver, settings, shifts, closed]

/-- If the port is not free, all is as it was, but for numbers and what is told. -/
theorem Reachable.serve_of_blocked (reachable : d.Reachable settings) (caller : Caller)
    {taken : Option Nat} (blocked : d.portBlocked taken = true) :
    d.serve caller taken =
      d.spent.tell (.served caller (.error (portTaken d.settings.interface.port))) := by
  rw [serve_eq, if_pos blocked, reachable.unobserve_observe]

/-- At a desk that is closed, whoever comes to serve goes at once. -/
theorem Reachable.serve_of_closed (reachable : d.Reachable settings) (caller : Caller)
    {taken : Option Nat} (free : d.portBlocked taken = false) (closed : d.closed = true) :
    d.serve caller taken = d.spent.reset.tell (.served caller (.ok ())) := by
  rw [serve_eq, free, if_neg Bool.false_ne_true, if_pos closed]
  show ((d.observe.2.2.unobserve d.jobs.nextId d.health.nextId).reset).tell _ = _
  rw [reachable.unobserve_observe]
  rfl

theorem serve_of_open (caller : Caller) {taken : Option Nat} (free : d.portBlocked taken = false)
    (opened : d.closed = false) :
    d.serve caller taken =
      { d.observe.2.2 with shifts := d.shifts ++ [d.nextShift caller] } := by
  rw [serve_eq, free, opened]
  rfl

theorem nextShift_observer (d : Desk) (caller : Caller) (feed : Feed) :
    (d.nextShift caller).observer feed = (d.store feed).nextId := by
  cases feed with
  | job => rfl
  | health => rfl

theorem spent_store (d : Desk) (feed : Feed) : d.spent.store feed = (d.store feed).spent := by
  cases feed with
  | job => rfl
  | health => rfl

/-- Whoever comes to serve and does not stay spends numbers of both stores. -/
theorem Reachable.serve_store (reachable : d.Reachable settings) (caller : Caller)
    {taken : Option Nat} (leaves : d.portBlocked taken = true ∨ d.closed = true) (feed : Feed) :
    (d.serve caller taken).store feed = (d.store feed).spent ∧
      (d.serve caller taken).shifts = d.shifts := by
  rw [← spent_store]
  cases blocked : d.portBlocked taken with
  | true =>
    rw [reachable.serve_of_blocked caller blocked]
    exact ⟨store_of_same rfl rfl feed, rfl⟩
  | false =>
    have closed : d.closed = true := by
      rcases leaves with taken | closed
      · rw [blocked] at taken
        cases taken
      · exact closed
    rw [reachable.serve_of_closed caller blocked closed]
    exact ⟨store_of_same rfl rfl feed, rfl⟩

/-- The one who comes to serve is the only one who comes. -/
theorem Reachable.serve_cases (reachable : d.Reachable settings) (caller : Caller)
    (taken : Option Nat) (feed : Feed) :
    (d.store feed).nextId < ((d.serve caller taken).store feed).nextId ∧
      ((d.serve caller taken).shifts = d.shifts ∧
          ((d.serve caller taken).store feed).observers = (d.store feed).observers ∨
        (d.serve caller taken).shifts = d.shifts ++ [d.nextShift caller] ∧
          ((d.serve caller taken).store feed).observers =
            (d.store feed).observers ++ [((d.store feed).nextId, feed.servant)]) := by
  by_cases leaves : d.portBlocked taken = true ∨ d.closed = true
  · obtain ⟨store, shifts⟩ := reachable.serve_store caller leaves feed
    rw [store]
    exact ⟨Nat.lt_succ_self _, .inl ⟨shifts, rfl⟩⟩
  · obtain ⟨free, opened⟩ := not_or.mp leaves
    rw [serve_of_open caller (Bool.eq_false_iff.mpr free) (Bool.eq_false_iff.mpr opened)]
    obtain ⟨nextId, observers⟩ := d.observe_store feed
    have same : Desk.store { d.observe.2.2 with shifts := d.shifts ++ [d.nextShift caller] } feed =
        d.observe.2.2.store feed := store_of_same rfl rfl feed
    rw [same, nextId]
    exact ⟨Nat.lt_succ_self _, .inr ⟨rfl, observers⟩⟩

/-- Whoever comes to serve changes nothing about the others. -/
theorem Reachable.serve_others (reachable : d.Reachable settings) (caller : Caller)
    (taken : Option Nat) (feed : Feed) :
    (d.serve caller taken).others feed = d.others feed := by
  obtain ⟨-, ⟨shifts, observers⟩ | ⟨shifts, observers⟩⟩ := reachable.serve_cases caller taken feed
  · unfold others
    rw [shifts, observers]
  · have given := (reachable.numbered feed).given
    unfold others
    rw [shifts, observers, List.filter_append, List.map_append, List.map_singleton,
      nextShift_observer]
    have own : [((d.store feed).nextId, feed.servant)].filter (fun o => decide (o.1 ∉
        (d.shifts.map fun s => s.observer feed) ++ [(d.store feed).nextId])) = [] := by
      simp
    rw [own, List.append_nil]
    apply List.filter_congr
    intro o member
    have different := Nat.ne_of_lt (given o member)
    simp [different]

/-! ## Who is there for whom -/

/-- The numbers of the observers that those who serve keep were given out, and whoever has such a
number does what is done for those who serve. -/
structure Staffed (feed : Feed) (d : Desk) : Prop where
  given : ∀ s ∈ d.shifts, s.observer feed < (d.store feed).nextId
  servants : ∀ s ∈ d.shifts, ∀ o ∈ (d.store feed).observers,
    o.1 = s.observer feed → o = (s.observer feed, feed.servant)

theorem Staffed.of_joins (staffed : Staffed feed d) (joins : (d.store feed).Joins (e.store feed))
    (shifts : ∀ s ∈ e.shifts, s ∈ d.shifts) : Staffed feed e where
  given := fun s member => Nat.lt_of_lt_of_le (staffed.given s (shifts s member)) joins.nextId_le
  servants := by
    intro s member o observes own
    have old : o.1 < (d.store feed).nextId := own ▸ staffed.given s (shifts s member)
    exact staffed.servants s (shifts s member) o (joins.known observes old) own

theorem Staffed.serve (staffed : Staffed feed d) (reachable : d.Reachable settings)
    (caller : Caller) (taken : Option Nat) : Staffed feed (d.serve caller taken) := by
  obtain ⟨later, ⟨shifts, observers⟩ | ⟨shifts, observers⟩⟩ :=
    reachable.serve_cases caller taken feed
  · refine staffed.of_joins (reachable.joins (serve_moves d caller taken) feed) ?_
    intro s member
    exact shifts ▸ member
  · constructor
    · intro s member
      rw [shifts] at member
      rcases List.mem_append.mp member with old | new
      · exact Nat.lt_trans (staffed.given s old) later
      · rw [List.mem_singleton.mp new, nextShift_observer]
        exact later
    · intro s member o observes own
      rw [shifts] at member
      rw [observers] at observes
      rcases List.mem_append.mp member with old | new
      · rcases List.mem_append.mp observes with there | come
        · exact staffed.servants s old o there own
        · -- Who comes now has a number that no shift had before.
          have bound := staffed.given s old
          rw [List.mem_singleton.mp come] at own
          exact absurd own (Nat.ne_of_gt bound)
      · rw [List.mem_singleton.mp new, nextShift_observer] at own ⊢
        rcases List.mem_append.mp observes with there | come
        · have bound := (reachable.numbered feed).given o there
          exact absurd own (Nat.ne_of_lt bound)
        · exact List.mem_singleton.mp come

/-- Shifts begin when somebody comes to serve, and end when the desk is closed. -/
theorem Reachable.shifts_cases (reachable : d.Reachable settings) (event : Event) :
    (∃ caller taken, event = .serve caller taken) ∨ event = .shutDown ∨
      (d.step event).shifts = d.shifts := by
  by_cases serves : ∃ caller taken, event = .serve caller taken
  · exact .inl serves
  · by_cases closes : event = .shutDown
    · exact .inr (.inl closes)
    · right
      right
      apply reachable.orderly.step_shifts
      · intro caller taken own
        exact serves ⟨caller, taken, own⟩
      · exact closes

theorem Staffed.step (staffed : Staffed feed d) (reachable : d.Reachable settings)
    (event : Event) : Staffed feed (d.step event) := by
  have joins := reachable.joins (step_moves d event) feed
  rcases reachable.shifts_cases event with ⟨caller, taken, rfl⟩ | rfl | kept
  · exact staffed.serve reachable caller taken
  · refine staffed.of_joins joins ?_
    intro s member
    have none : (d.step .shutDown).shifts = [] := shutDown_shifts d
    rw [none] at member
    cases member
  · refine staffed.of_joins joins ?_
    intro s member
    exact kept ▸ member

theorem Reachable.staffed (reachable : d.Reachable settings) (feed : Feed) : Staffed feed d := by
  refine reachable.induction ?_ ?_
  · intro hooked
    exact ⟨nofun, nofun⟩
  · intro e event known staffed
    exact Staffed.step staffed known event

/-- Whoever observes a store does so for others, or is kept there by one who serves. -/
theorem Reachable.mem_others (reachable : d.Reachable settings) {o : Nat × Observer}
    (member : o ∈ (d.store feed).observers) :
    o ∈ d.others feed ∨ ∃ s ∈ d.shifts, o = (s.observer feed, feed.servant) := by
  by_cases kept : o.1 ∈ d.shifts.map fun s => s.observer feed
  · right
    obtain ⟨s, serves, own⟩ := List.mem_map.mp kept
    exact ⟨s, serves, (reachable.staffed feed).servants s serves o member own.symm⟩
  · left
    exact List.mem_filter.mpr ⟨member, decide_eq_true kept⟩

/-- Whoever comes to observe a store and does not serve is one of the others. -/
theorem Reachable.subscribe_others (reachable : d.Reachable settings) (feed : Feed)
    (observer : Observer) :
    (d.subscribe feed observer).2.others feed =
      d.others feed ++ [((d.store feed).nextId, observer)] := by
  have come : ((d.subscribe feed observer).2.store feed).observers =
      (d.store feed).observers ++ [((d.store feed).nextId, observer)] := by
    show ((d.follow feed _).store feed).observers = _
    rw [follow_store]
    exact ((d.store feed).subscribe_eq observer).2.1
  have shifts : (d.subscribe feed observer).2.shifts = d.shifts := withStore_shifts d feed _
  have new : (d.store feed).nextId ∉ d.shifts.map fun s => s.observer feed := by
    intro kept
    obtain ⟨s, serves, own⟩ := List.mem_map.mp kept
    exact Nat.ne_of_lt ((reachable.staffed feed).given s serves) own
  unfold others
  rw [come, shifts, List.filter_append]
  congr 1
  apply List.filter_eq_self.mpr
  intro o member
  rw [List.mem_singleton.mp member]
  exact decide_eq_true new

/-- Whoever goes is none of the others any more. -/
theorem unsubscribe_others (d : Desk) (feed : Feed) (id : Nat) :
    (d.unsubscribe feed id).others feed = (d.others feed).filter fun o => o.1 ≠ id := by
  have shifts : (d.unsubscribe feed id).shifts = d.shifts := withStore_shifts d feed _
  unfold others
  rw [unsubscribe_observers, if_pos rfl, shifts, List.filter_filter, List.filter_filter]
  apply List.filter_congr
  intro o member
  exact Bool.and_comm _ _

/-- No timer of a store that nobody observes is live. -/
theorem Reachable.timers_of_unobserved (reachable : d.Reachable settings)
    (empty : (d.store feed).observers = []) : d.timers feed = [] := by
  have poised := reachable.poised feed
  have keys := poised.timers
  rw [poised.untimed empty] at keys
  exact List.map_eq_nil_iff.mp keys

/-- A shift goes on until the desk is closed. -/
theorem Reachable.step_shifts (reachable : d.Reachable settings) {event : Event}
    (goesOn : event ≠ .shutDown) {s : Shift} (serves : s ∈ d.shifts) :
    s ∈ (d.step event).shifts := by
  rcases reachable.shifts_cases event with ⟨caller, taken, rfl⟩ | closes | kept
  · show s ∈ (d.serve caller taken).shifts
    obtain ⟨-, ⟨shifts, -⟩ | ⟨shifts, -⟩⟩ := reachable.serve_cases caller taken .job
    · rw [shifts]
      exact serves
    · rw [shifts]
      exact List.mem_append_left _ serves
  · exact absurd closes goesOn
  · rw [kept]
    exact serves

theorem Reachable.live_shifts (reachable : d.Reachable settings) {events : List Event}
    (goesOn : ∀ event ∈ events, event ≠ .shutDown) {s : Shift} (serves : s ∈ d.shifts) :
    s ∈ (d.live events).shifts := by
  induction events generalizing d with
  | nil => exact serves
  | cons event events ih =>
    have next := reachable.step_shifts (goesOn event List.mem_cons_self) serves
    refine ih (reachable.step event) ?_ next
    intro other member
    exact goesOn other (List.mem_cons_of_mem _ member)

end Desk

end Watchdesk
