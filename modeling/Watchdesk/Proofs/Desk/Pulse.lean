import Watchdesk.Proofs.Desk.Abstaining
import Watchdesk.Proofs.Desk.Announcing

/-!
# One event at an observed store

An event at a desk leaves the polls of a store that is observed as they are, or begins a fetch
whose time has come, or settles the fetch that is under way and puts the next poll on the agenda.
-/

namespace Watchdesk

/-- How long a store of a desk waits for its next poll, when this state of the job was the last one
that was reported. -/
def Feed.pause (settings : PollingSettings) : Feed → Option JobState → Nat
  | .job, reported =>
    if reported.map JobState.status = some .running then settings.jobRunning else settings.jobIdle
  | .health, _ => settings.health

/-- Settings that make sense leave no two polls without a pause between them. -/
theorem Feed.pause_pos {settings : Settings} (sensible : settings.complaint = none) (feed : Feed)
    (reported : Option JobState) : 0 < feed.pause settings.polling reported := by
  have pauses : 0 < settings.polling.jobRunning ∧ 0 < settings.polling.jobIdle ∧
      0 < settings.polling.health := by
    simp only [Settings.complaint] at sensible
    split at sensible
    · cases sensible
    · split at sensible
      · cases sensible
      · split at sensible
        · cases sensible
        · next some =>
          simp only [Bool.or_eq_true, decide_eq_true_eq, not_or] at some
          omega
  cases feed with
  | job =>
    simp only [Feed.pause]
    split
    · exact pauses.1
    · exact pauses.2.1
  | health => exact pauses.2.2

theorem Source.delay_job (settings : PollingSettings) (s : JobSnapshot) :
    (Source.job settings).delay s = Feed.job.pause settings s.job := by
  obtain ⟨job, error⟩ := s
  cases job with
  | none => rfl
  | some job =>
    cases status : job.status <;> simp [Source.job, JobSnapshot.isRunning, Feed.pause, status]

namespace Desk

variable {settings : Settings} {feed : Feed} {d e f : Desk}

/-! ## What holds of a store in every life -/

theorem length_fetches (d : Desk) (feed : Feed) :
    (d.fetches feed).length = d.tasks.countP (Task.polls feed) := by
  rw [fetches, List.length_map, tasks, List.countP_map, List.countP_eq_length_filter]
  rfl

/-- A store has a fetch under way exactly if it is busy, on the agenda the timer that it remembers,
and none if nobody observes it. -/
structure Poised (feed : Feed) (d : Desk) : Prop where
  fetches : (d.fetches feed).length = (d.store feed).busy.toNat
  timers : (d.timers feed).map Alarm.key = (d.store feed).timer.toList
  numbered : ∀ number ∈ (d.store feed).timer, number ≤ (d.store feed).sequence
  untimed : (d.store feed).observers = [] → (d.store feed).timer = none

theorem live_poised (settings : Settings) (hooked : Bool) (feed : Feed) (events : List Event) :
    Poised feed ((ofSettings settings hooked).live events) := by
  obtain ⟨part, shows⟩ := live_shows settings hooked feed events
  have valid := Poller.run_valid (Poller.ofSource_valid (feed.source settings.polling))
    (feed.source settings.polling) part
  generalize Poller.run _ _ part = p at shows valid
  constructor
  · rw [length_fetches, ← shows.fetching, ← shows.store]
    exact valid.fetching
  · rw [← shows.store, ← valid.keys]
    have same := (shows.agenda.alarms.map Alarm.key).symm
    have few : p.agenda.keys.length ≤ 1 := by
      rw [Agenda.length_keys]
      exact Agenda.length_alarms_le_one valid.keys
    match keys : p.agenda.keys, few with
    | [], _ =>
      rw [show p.agenda.alarms.map Alarm.key = [] from keys] at same
      exact List.perm_nil.mp same
    | [key], _ =>
      rw [show p.agenda.alarms.map Alarm.key = [key] from keys] at same
      exact List.perm_singleton.mp same
  · rw [← shows.store]
    exact valid.numbered
  · rw [← shows.store]
    exact valid.unobserved

theorem Poised.idle (poised : Poised feed d) (idle : (d.store feed).busy = false) :
    d.fetches feed = [] := by
  have none := poised.fetches
  rw [idle] at none
  exact List.length_eq_zero_iff.mp none

theorem Poised.busy (poised : Poised feed d) {ticket : Nat} (pending : ticket ∈ d.fetches feed) :
    (d.store feed).busy = true ∧ d.fetches feed = [ticket] := by
  have counted := poised.fetches
  cases busy : (d.store feed).busy with
  | false =>
    rw [poised.idle busy] at pending
    cases pending
  | true =>
    rw [busy] at counted
    obtain ⟨one, alone⟩ := List.length_eq_one_iff.mp counted
    rw [alone, List.mem_singleton] at pending
    exact ⟨rfl, by rw [alone, pending]⟩

/-! ## What leaves the polls of an observed store as they are -/

/-- Nothing happens to the polls of a store. -/
structure Calm (feed : Feed) (d e : Desk) : Prop where
  now : e.now = d.now
  fetches : e.fetches feed = d.fetches feed
  timers : e.timers feed = d.timers feed

theorem Calm.trans (first : Calm feed d e) (second : Calm feed e f) : Calm feed d f :=
  ⟨second.now.trans first.now, second.fetches.trans first.fetches,
    second.timers.trans first.timers⟩

theorem Idles.calm (idles : Idles feed d e) (present : (e.store feed).observers ≠ []) :
    Calm feed d e :=
  ⟨idles.now, idles.fetches, idles.timers present⟩

theorem Idles.present (idles : Idles feed d e) (present : (e.store feed).observers ≠ []) :
    (d.store feed).observers ≠ [] := fun empty =>
  present (List.sublist_nil.mp (empty ▸ idles.observers))

/-- An observer who joins others has nothing polled. -/
theorem subscribe_calm (present : (d.store feed).observers ≠ []) (other : Feed)
    (observer : Observer) :
    Calm feed d (d.subscribe other observer).2 ∧
      ((d.subscribe other observer).2.store feed).observers ≠ [] := by
  by_cases same : other = feed
  · subst same
    have stored : (d.subscribe other observer).2 = d.withStore other
        { d.store other with
          nextId := (d.store other).nextId + 1
          observers := (d.store other).observers ++ [((d.store other).nextId, observer)] } := by
      unfold Desk.subscribe
      rw [Store.subscribe_of_observed present]
      rfl
    rw [stored]
    refine ⟨⟨?_, ?_, ?_⟩, ?_⟩
    · rw [now, withStore_agenda, now]
    · rw [Desk.fetches, withStore_calls, Desk.fetches]
    · rw [Desk.timers, withStore_agenda, Desk.timers]
    · rw [store_withStore]
      simp
  · have idles : Idles feed d (d.subscribe other observer).2 := follow_idles same d _
    have kept : (d.subscribe other observer).2.store feed = d.store feed := by
      show (d.follow other _).store feed = _
      exact (store_of_same rfl rfl feed).trans (store_withStore_of_ne same d _)
    rw [← kept] at present
    exact ⟨idles.calm present, present⟩

theorem serve_calm (present : (d.store feed).observers ≠ []) (caller : Caller)
    (taken : Option Nat) (still : ((d.serve caller taken).store feed).observers ≠ []) :
    Calm feed d (d.serve caller taken) := by
  obtain ⟨first, attended⟩ := subscribe_calm present .job .announcer
  obtain ⟨second, -⟩ := subscribe_calm attended .health .keeper
  refine first.trans (second.trans (Idles.calm ?_ still))
  unfold serve
  dsimp only
  split
  · exact .trans (Acts.idles (unobserve_acts _ _ _)) (Act.idles (.tell _ rfl) rfl)
  · split
    · exact Acts.idles (endShift_acts (by rfl) _ _)
    · exact .of_same (store_of_same rfl rfl feed) rfl rfl

/-! ## What an event does -/

/-- What an event does to the polls of an observed store: nothing but that a timer may go off while
a fetch is under way; or it begins the fetch that the store waited for; or it settles the fetch that
is under way, and the next poll is due after a pause. -/
inductive Pulse (feed : Feed) (pause : Nat) (d e : Desk) : Prop where
  | none (fetches : e.fetches feed = d.fetches feed)
      (waits : d.fetches feed = [] → e.timers feed = d.timers feed)
      (now : d.now ≤ e.now)
      (punctual : ∀ alarm ∈ d.timers feed, e.now = d.now ∨ e.now ≤ alarm.due)
  | begins (now : e.now = d.now) (come : ∃ alarm, d.timers feed = [alarm] ∧ alarm.due ≤ d.now)
      (idle : d.fetches feed = []) (fetches : ∃ ticket, e.fetches feed = [ticket])
  | settles (now : e.now = d.now) (fetches : ∃ ticket, d.fetches feed = [ticket])
      (idle : e.fetches feed = []) (waits : ∃ number, e.timers feed = [⟨number, d.now + pause⟩])

variable {pause : Nat}

theorem Calm.pulse (calm : Calm feed d e) : Pulse feed pause d e :=
  .none calm.fetches (fun _ => calm.timers) (Nat.le_of_eq calm.now.symm)
    fun _ _ => .inl calm.now

theorem fetches_call (d : Desk) (feed : Feed) (request : Request) (caller : Option Caller) :
    (d.call request (.poll feed caller)).fetches feed = d.fetches feed ++ [d.tickets + 1] := by
  have own : Task.polls feed (.poll feed caller) = true := decide_eq_true rfl
  simp [fetches, call, own]

theorem poll_of_busy (busy : (d.store feed).busy = true) (caller : Option Caller) :
    d.poll feed caller = d.tellPolled caller feed := by
  unfold Desk.poll
  rw [Poller.startPoll_of_busy busy]

theorem poll_of_idle (idle : (d.store feed).busy = false) (caller : Option Caller) :
    d.poll feed caller = (d.withStore feed { d.store feed with busy := true }).call
      (.get (feed.url d.settings.backend)) (.poll feed caller) := by
  unfold Desk.poll
  rw [Poller.startPoll_of_idle idle]

/-- The poll on the agenda is due. A store that is busy lets it pass. -/
theorem Poised.ring_pulse (poised : Poised feed d) {alarm : Alarm Duty} {agenda : Agenda Duty}
    {number : Nat} (taken : d.agenda.takeDue d.now = some (alarm, agenda))
    (own : alarm.key = .poll feed number) : Pulse feed pause d d.ringNext := by
  obtain ⟨alarms, come, now⟩ := Agenda.takeDue_eq_some taken
  have reads : alarm.key.pollOf feed = some number := by simp [own, Duty.pollOf]
  have share : d.timers feed =
      ⟨number, alarm.due⟩ :: Agenda.share (Duty.pollOf feed) agenda.alarms := by
    rw [Desk.timers, alarms, Agenda.share_cons_own reads]
  have keys := poised.timers
  rw [share, List.map_cons] at keys
  cases timer : (d.store feed).timer with
  | none =>
    rw [timer] at keys
    cases keys
  | some remembered =>
    rw [timer, Option.toList_some] at keys
    obtain ⟨rfl, rest⟩ := List.cons.inj keys
    rw [List.map_eq_nil_iff.mp rest] at share
    let left := Desk.withStore { d with agenda } feed { d.store feed with timer := Option.none }
    have fired : d.ringNext = left.poll feed Option.none := by
      have stored : Desk.store { d with agenda } feed = d.store feed :=
        store_of_same rfl rfl feed
      unfold ringNext
      rw [taken]
      dsimp only
      rw [own]
      show (Desk.withStore { d with agenda } feed
        ((Desk.store { d with agenda } feed).fire number)).poll feed Option.none = _
      rw [stored, Store.fire, if_pos timer]
    have leftFetches : left.fetches feed = d.fetches feed := by
      rw [Desk.fetches, withStore_calls, Desk.fetches]
    have leftNow : left.now = d.now := by
      rw [Desk.now, withStore_agenda]
      exact now
    have leftBusy : (left.store feed).busy = (d.store feed).busy := by
      rw [store_withStore]
    rw [fired]
    cases busy : (d.store feed).busy with
    | true =>
      have told : Idles feed left (left.tellPolled Option.none feed) :=
        Acts.idles (tellPolled_acts left Option.none feed)
      rw [poll_of_busy (leftBusy.trans busy)]
      refine .none (told.fetches.trans leftFetches) ?_
        (Nat.le_of_eq (told.now.trans leftNow).symm) fun _ _ => .inl (told.now.trans leftNow)
      intro idle
      have one := poised.fetches
      rw [idle, busy] at one
      cases one
    | false =>
      have empty := poised.idle busy
      rw [poll_of_idle (leftBusy.trans busy)]
      have begun (store : Store feed.State Observer) (request : Request) :
          ((left.withStore feed store).call request (.poll feed Option.none)).fetches feed =
            [(left.withStore feed store).tickets + 1] := by
        rw [fetches_call, Desk.fetches, withStore_calls, ← Desk.fetches, leftFetches, empty]
        rfl
      refine .begins ?_ ⟨_, share, come⟩ empty ⟨_, begun _ _⟩
      show (left.withStore feed _).now = d.now
      rw [Desk.now, withStore_agenda]
      exact leftNow

/-! ## A fetch that settles -/

theorem rearm_of_present {σ ω : Type} {store : Store σ ω} (present : store.observers ≠ [])
    (source : Source σ) (snapshot : σ) :
    store.rearm source snapshot = store.arm (source.delay snapshot) := by
  unfold Store.rearm
  rw [if_neg (by simpa using present)]

/-- The next poll of an observed store comes in place of the one on the agenda. -/
theorem rearm_timers (keys : (d.timers feed).map Alarm.key = (d.store feed).timer.toList)
    (numbered : ∀ number ∈ (d.store feed).timer, number ≤ (d.store feed).sequence)
    (present : (d.store feed).observers ≠ []) (source : Source feed.State)
    (snapshot : feed.State) :
    (d.follow feed ((d.store feed).rearm source snapshot)).timers feed =
      [⟨(d.store feed).sequence + 1, d.now + source.delay snapshot⟩] := by
  let own := d.agenda.shareOf (Duty.pollOf feed)
  let orders := ((d.store feed).arm (source.delay snapshot)).2
  have mirrors : Agenda.Mirrors (Duty.pollOf feed) own d.agenda := ⟨rfl, List.Perm.refl _⟩
  have armed : (own.obeyAll orders).alarms =
      [⟨(d.store feed).sequence + 1, d.now + source.delay snapshot⟩] := by
    refine Agenda.alarms_replace (g := own) _ keys ?_
    intro old member
    have bound := numbered old member
    omega
  have whole := (mirrors.obeyAll_own (pollOf_inv feed) orders).alarms
  rw [armed] at whole
  rw [rearm_of_present present]
  show Agenda.share _ ((d.withStore feed _).agenda.obeyAll (orders.map _)).alarms = _
  rw [withStore_agenda]
  exact (List.singleton_perm.mp whole).symm

theorem rearm_observers (store : Store feed.State Observer) (source : Source feed.State)
    (snapshot : feed.State) : (store.rearm source snapshot).1.observers = store.observers := by
  unfold Store.rearm
  split <;> rfl

/-- The fetch that is under way settles. -/
theorem Orderly.settle_pulse (orderly : Orderly settings d) (poised : Poised feed d) {call : Call}
    {caller : Option Caller} (pending : call ∈ d.calls) (task : call.task = .poll feed caller)
    (result : Except Fault String)
    (still : (((d.forget call.ticket).settlePoll feed caller result).store feed).observers ≠ [])
    (delay : (feed.source settings.polling).delay
      ((d.store feed).settle (feed.source settings.polling) (feed.read result)).snapshot = pause) :
    Pulse feed pause d ((d.forget call.ticket).settlePoll feed caller result) := by
  let source := feed.source settings.polling
  let store := (d.store feed).settle source (feed.read result)
  let left := (d.forget call.ticket).withStore feed store
  let told := left.deliverAll (feed.snapshot store.snapshot) store.observers
  let armed := told.follow feed ((told.store feed).rearm source store.snapshot)
  have own : call.task.polls feed = true := by
    rw [task]
    exact decide_eq_true rfl
  have listed : call.ticket ∈ d.fetches feed :=
    List.mem_map_of_mem (List.mem_filter.mpr ⟨pending, own⟩)
  obtain ⟨-, only⟩ := poised.busy listed
  have settled : (d.forget call.ticket).settlePoll feed caller result =
      armed.tellPolled caller feed := by
    have kept : (d.forget call.ticket).store feed = d.store feed := store_of_same rfl rfl feed
    have known : (d.forget call.ticket).settings = settings := orderly.settings
    unfold Desk.settlePoll Desk.settleStore
    rw [kept, known]
  have reported : Idles feed armed (armed.tellPolled caller feed) :=
    Acts.idles (tellPolled_acts armed caller feed)
  have delivered : Idles feed left told :=
    Acts.idles (deliverAll_acts (by simp [Part.touches]) left _)
  have leftStore : left.store feed = store := store_withStore _ feed store
  have leftFetches : left.fetches feed = [] := by
    have counted := (orderly.tasks_perm pending).countP_eq (Task.polls feed)
    rw [List.countP_cons_of_pos own, ← length_fetches, ← length_fetches, only] at counted
    have none := List.length_eq_zero_iff.mp (Nat.succ.inj counted).symm
    rw [Desk.fetches, withStore_calls]
    exact none
  have leftAgenda : left.agenda = d.agenda := withStore_agenda _ feed store
  rw [settled] at still ⊢
  -- Whoever is left when all is done was there when the poll was put on the agenda.
  have armedStore : armed.store feed = ((told.store feed).rearm source store.snapshot).1 :=
    follow_store told feed _
  have present : (told.store feed).observers ≠ [] := by
    have before := reported.present still
    rw [armedStore, rearm_observers] at before
    exact before
  have timer : (told.store feed).timer = (d.store feed).timer := by
    rw [delivered.timer present, leftStore]
    rfl
  have sequence : (told.store feed).sequence = (d.store feed).sequence := by
    rw [delivered.sequence, leftStore]
    rfl
  have timers : told.timers feed = d.timers feed := by
    rw [delivered.timers present, Desk.timers, leftAgenda, Desk.timers]
  have toldNow : told.now = d.now := by
    rw [delivered.now, Desk.now, leftAgenda, Desk.now]
  have armedNow : armed.now = d.now := by
    show ((told.withStore feed _).agenda.obeyAll _).now = d.now
    rw [Agenda.obeyAll_now, withStore_agenda]
    exact toldNow
  have waits : armed.timers feed = [⟨(told.store feed).sequence + 1, told.now + pause⟩] := by
    rw [← delay]
    refine rearm_timers ?_ ?_ present source store.snapshot
    · rw [timers, timer]
      exact poised.timers
    · rw [timer, sequence]
      exact poised.numbered
  have calm := reported.calm still
  refine .settles (calm.now.trans armedNow) ⟨call.ticket, only⟩ ?_
    ⟨(told.store feed).sequence + 1, ?_⟩
  · rw [calm.fetches]
    show (told.withStore feed _).fetches feed = []
    rw [Desk.fetches, withStore_calls]
    exact delivered.fetches.trans leftFetches
  · rw [calm.timers, waits, toldNow]

/-- What is known of the job when a poll of it has settled. -/
theorem settlePoll_known (d : Desk) (caller : Option Caller) (result : Except Fault String) :
    (d.settlePoll .job caller result).jobs.snapshot.job =
      (replied result).or d.jobs.snapshot.job := by
  let store := d.jobs.settle (.job d.settings.polling) (Feed.job.read result)
  let told := (d.withStore .job store).deliverAll (.job store.snapshot) store.observers
  have shown : told.jobs.snapshot = store.snapshot := Acts.known (deliverAll_acts (by simp) _ _)
  have kept : Steady told (d.settlePoll .job caller result) :=
    .trans (follow_steady _ .job (Poller.rearm_snapshot _ _ _))
      (Acts.steady (tellPolled_acts _ caller .job))
  rw [kept.known, shown]
  exact settle_job d.jobs d.settings.polling result

/-- An event changes what is known of the job by what a poll brings. -/
theorem Orderly.step_known (orderly : Orderly settings d) (event : Event) :
    (d.step event).jobs.snapshot.job =
      ((d.jobPolled event).bind fun poll => replied poll.2).or d.jobs.snapshot.job := by
  cases polled : d.jobPolled event with
  | none => exact congrArg JobSnapshot.job (orderly.step_steady polled).known
  | some poll =>
    obtain ⟨ticket, result⟩ := poll
    obtain ⟨caller, stepped⟩ := step_of_jobPolled polled
    rw [stepped]
    exact settlePoll_known (d.forget ticket) caller result

/-- The store knows the job that was reported last. -/
theorem Orderly.live_known (orderly : Orderly settings d) {jobs : List JobState}
    (known : d.jobs.snapshot.job = jobs.getLast?) (events : List Event) :
    (d.live events).jobs.snapshot.job = (jobs ++ d.replies events).getLast? := by
  induction events generalizing d jobs with
  | nil => rw [live_nil, replies, List.append_nil, known]
  | cons event events ih =>
    let brought := (d.jobPolled event).bind fun poll => replied poll.2
    have next : (d.step event).jobs.snapshot.job = (jobs ++ brought.toList).getLast? := by
      rw [orderly.step_known event, known]
      show brought.or _ = _
      cases brought with
      | none => simp
      | some job => simp
    rw [live_cons, ih (orderly.moves (step_moves d event)) next, replies, List.append_assoc]

theorem settlePoll_pause (polling : PollingSettings) (d : Desk) (feed : Feed)
    (caller : Option Caller) (result : Except Fault String) :
    (feed.source polling).delay
        ((d.store feed).settle (feed.source polling) (feed.read result)).snapshot =
      feed.pause polling (d.settlePoll feed caller result).jobs.snapshot.job := by
  cases feed with
  | job =>
    rw [settlePoll_known]
    exact (Source.delay_job polling _).trans (congrArg _ (settle_job d.jobs polling result))
  | health => rfl

/-- Somebody polls a store without waiting for its time. -/
def Event.asks : Event → Option Feed
  | .poll feed _ => some feed
  | _ => none

/-- No poll of a store that has become due is kept waiting while time passes. -/
def Punctual (d : Desk) (feed : Feed) : Event → Prop
  | .pass span => ∀ alarm ∈ d.timers feed, d.now + span ≤ alarm.due
  | _ => True

/-- What an event does to a store that is observed before and after it, when nobody polls the store
and no timer is kept waiting. -/
theorem Orderly.step_pulse (orderly : Orderly settings d) (poised : Poised feed d) {event : Event}
    (present : (d.store feed).observers ≠ [])
    (still : ((d.step event).store feed).observers ≠ []) (unasked : event.asks ≠ some feed)
    (punctual : d.Punctual feed event) :
    Pulse feed (feed.pause settings.polling (d.step event).jobs.snapshot.job) d
      (d.step event) := by
  by_cases concerns : d.Concerns feed event
  · cases event with
    | subscribe other observer => exact (subscribe_calm present other observer).1.pulse
    | watch number other leaves =>
      have joined := (subscribe_calm present other (.watch number leaves)).1
      have noted : Idles feed (d.subscribe other (.watch number leaves)).2
          (d.step (.watch number other leaves)) := Act.idles (.watches _ _) rfl
      exact (joined.trans (noted.calm still)).pulse
    | poll other caller =>
      cases concerns
      exact absurd rfl unasked
    | serve caller taken => exact (serve_calm present caller taken still).pulse
    | shutDown =>
      exact ((Acts.idles (shutDown_acts (by rfl) (by rfl) d)).calm still).pulse
    | pass span =>
      exact .none rfl (fun _ => rfl) (Nat.le_add_right _ _) fun alarm member =>
        .inr (punctual alarm member)
    | ring =>
      obtain ⟨alarm, agenda, taken, own⟩ := concerns
      cases key : alarm.key with
      | poll other number =>
        have same : other = feed := by
          by_contra different
          simp [key, Duty.pollOf, different] at own
        subst same
        exact poised.ring_pulse taken key
      | question epoch => simp [key, Duty.pollOf] at own
      | removal notice => simp [key, Duty.pollOf] at own
    | answer ticket answer =>
      obtain ⟨task, result, settled, own⟩ := concerns
      obtain ⟨call, pending, rfl, rfl⟩ := pending_of_settlement settled
      cases task : call.task with
      | poll other caller =>
        have same : other = feed := by simpa [task, Task.polls] using own
        subst same
        have stepped : d.step (.answer call.ticket answer) =
            (d.forget call.ticket).settlePoll other caller result := by
          rw [task] at settled
          exact answer_of_settlement settled
        have kept : (d.forget call.ticket).store other = d.store other :=
          store_of_same rfl rfl other
        have delay := settlePoll_pause settings.polling (d.forget call.ticket) other caller result
        rw [kept] at delay
        rw [stepped] at still ⊢
        exact orderly.settle_pulse poised pending task result still delay
      | start epoch caller anyReply => simp [task, Task.polls] at own
      | question epoch => simp [task, Task.polls] at own
      | probe order => simp [task, Task.polls] at own
      | batch order run => simp [task, Task.polls] at own
    | _ => cases concerns
  · exact ((orderly.step_idles concerns).calm still).pulse

end Desk

end Watchdesk
