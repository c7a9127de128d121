import Watchdesk.Proofs.Clock.Share
import Watchdesk.Proofs.Desk.Calls
import Watchdesk.Proofs.Polling.Lifecycle

/-!
# The stores of a desk

What a desk does with one of its stores is a run of that store alone: an agenda of the store's own
shows its share of the desk's agenda, and the fetches under way are the desk's calls for it. All
else that the desk does leaves the store and its share as they are. So what holds of every run of
a store holds of the stores of every desk.
-/

namespace Watchdesk

/-- The number under which work on the agenda polls a store. -/
def Duty.pollOf (feed : Feed) : Duty → Option Nat
  | .poll other number => if other = feed then some number else none
  | .question _ | .removal _ => none

/-- The task settles a poll of a store. -/
def Task.polls (feed : Feed) : Task → Bool
  | .poll other _ => other = feed
  | .start _ _ _ | .question _ | .probe _ | .batch _ _ => false

theorem pollOf_inv (feed : Feed) : Function.IsPartialInv (Duty.poll feed) (Duty.pollOf feed) := by
  intro number duty
  cases duty with
  | poll other found =>
    by_cases same : other = feed
    · subst same
      simp [Duty.pollOf, eq_comm]
    · simp [Duty.pollOf, same, Ne.symm same]
  | question epoch => simp [Duty.pollOf]
  | removal notice => simp [Duty.pollOf]

theorem polls_of_isExport {task : Task} (own : task.isExport = true) (feed : Feed) :
    task.polls feed = false := by
  cases task with
  | poll other caller => cases own
  | start epoch caller anyReply => cases own
  | question epoch => cases own
  | probe order => rfl
  | batch order run => rfl

namespace Desk

/-- A store at work shows a store of a desk: the store itself, its share of the agenda, and the
calls for it. -/
structure Shows (feed : Feed) (calls : Nat) (rounds : List (Round feed.State Observer)) (d : Desk)
    (p : Poller feed.State Observer) : Prop where
  store : p.store = d.store feed
  agenda : Agenda.Mirrors (Duty.pollOf feed) p.agenda d.agenda
  fetching : p.fetching = d.tasks.countP (Task.polls feed)
  calls : p.calls = calls
  rounds : p.rounds = rounds

variable {settings : Settings} {feed : Feed} {calls : Nat}
  {rounds : List (Round feed.State Observer)} {d e : Desk} {p : Poller feed.State Observer}

@[simp] theorem store_withStore (d : Desk) (feed : Feed) (store : Store feed.State Observer) :
    (d.withStore feed store).store feed = store := by
  cases feed <;> rfl

theorem store_withStore_of_ne {other : Feed} (different : other ≠ feed) (d : Desk)
    (store : Store other.State Observer) : (d.withStore other store).store feed = d.store feed := by
  cases feed <;> cases other
  · exact absurd rfl different
  · rfl
  · rfl
  · exact absurd rfl different

theorem store_of_same (jobs : e.jobs = d.jobs) (health : e.health = d.health) (feed : Feed) :
    e.store feed = d.store feed := by
  cases feed with
  | job => exact jobs
  | health => exact health

/-! ## What leaves a store as it is -/

theorem Shows.of_same (shows : Shows feed calls rounds d p) (store : e.store feed = d.store feed)
    (agenda : e.agenda = d.agenda) (tasks : e.tasks = d.tasks) : Shows feed calls rounds e p :=
  { shows with
    store := shows.store.trans store.symm
    agenda := agenda ▸ shows.agenda
    fetching := tasks ▸ shows.fetching }

theorem Shows.aside (shows : Shows feed calls rounds d p) (aside : Aside d e) :
    Shows feed calls rounds e p :=
  shows.of_same
    (store_of_same (congrArg Core.jobs aside.core) (congrArg Core.health aside.core) feed)
    (congrArg Core.agenda aside.core) (tasks_of_same (congrArg Core.calls aside.core))

theorem Shows.order_foreign {ο : Type} {duty : ο → Duty} (shows : Shows feed calls rounds d p)
    (foreign : ∀ key, Duty.pollOf feed (duty key) = none) (orders : List (Order ο)) :
    Shows feed calls rounds (d.order duty orders) p :=
  { shows with
    store := shows.store.trans (store_of_same rfl rfl feed).symm
    agenda := shows.agenda.obeyAll_foreign foreign orders }

theorem Shows.withStore_foreign {other : Feed} (shows : Shows feed calls rounds d p)
    (different : other ≠ feed) (store : Store other.State Observer) :
    Shows feed calls rounds (d.withStore other store) p :=
  shows.of_same (store_withStore_of_ne different d store) (withStore_agenda d other store)
    (tasks_of_same (withStore_calls d other store))

theorem Shows.follow_foreign {other : Feed} (shows : Shows feed calls rounds d p)
    (different : other ≠ feed) (change : Store other.State Observer × List (Order Nat)) :
    Shows feed calls rounds (d.follow other change) p := by
  refine (shows.withStore_foreign different change.1).order_foreign ?_ change.2
  intro number
  exact if_neg different

theorem Shows.call_foreign {task : Task} (shows : Shows feed calls rounds d p)
    (foreign : task.polls feed = false) (request : Request) :
    Shows feed calls rounds (d.call request task) p :=
  { shows with
    store := shows.store.trans (store_of_same rfl rfl feed).symm
    fetching := by
      rw [tasks_call, List.countP_append, List.countP_singleton, foreign]
      exact shows.fetching }

theorem Shows.forget_foreign {call : Call} (shows : Shows feed calls rounds d p)
    (orderly : Orderly settings d) (pending : call ∈ d.calls)
    (foreign : call.task.polls feed = false) :
    Shows feed calls rounds (d.forget call.ticket) p :=
  { shows with
    store := shows.store.trans (store_of_same rfl rfl feed).symm
    fetching := by
      have counted := (orderly.tasks_perm pending).countP_eq (Task.polls feed)
      rw [List.countP_cons_of_neg (by simp [foreign])] at counted
      exact shows.fetching.trans counted }

/-! ## What a store does -/

theorem Shows.withStore (shows : Shows feed calls rounds d p)
    (store : Store feed.State Observer) :
    Shows feed calls rounds (d.withStore feed store) { p with store } :=
  { shows with
    store := (store_withStore d feed store).symm
    agenda := by
      rw [withStore_agenda]
      exact shows.agenda
    fetching := by
      rw [tasks_of_same (withStore_calls d feed store)]
      exact shows.fetching }

/-- An operation of a store, whose orders are carried out on its share of the agenda. -/
theorem Shows.follow (shows : Shows feed calls rounds d p)
    (act : Store feed.State Observer → Store feed.State Observer × List (Order Nat)) :
    Shows feed calls rounds (d.follow feed (act (d.store feed))) (p.follow (act p.store)) := by
  rw [shows.store]
  have stored := shows.withStore (act (d.store feed)).1
  exact
    { stored with
      store := stored.store.trans (store_of_same rfl rfl feed).symm
      agenda := stored.agenda.obeyAll_own (pollOf_inv feed) (act (d.store feed)).2 }

theorem Shows.call (shows : Shows feed calls rounds d p) (request : Request)
    (caller : Option Caller) :
    Shows feed calls rounds (d.call request (.poll feed caller))
      { p with fetching := p.fetching + 1 } :=
  { shows with
    store := shows.store.trans (store_of_same rfl rfl feed).symm
    fetching := by
      have own : Task.polls feed (.poll feed caller) = true := decide_eq_true rfl
      rw [tasks_call, List.countP_append, List.countP_singleton, own, ← shows.fetching]
      rfl }

/-- What observers do about a snapshot is that some of them go. -/
theorem Shows.stir (stir : Stir d e) (shows : Shows feed calls rounds d p)
    (source : Source feed.State) :
    ∃ events, Shows feed calls rounds e (Poller.run source p events) := by
  induction stir generalizing p with
  | trans _ _ first second =>
    obtain ⟨early, shows⟩ := first shows
    obtain ⟨late, shows⟩ := second shows
    refine ⟨early ++ late, ?_⟩
    rw [Poller.run_append]
    exact shows
  | aside aside => exact ⟨[], shows.aside aside⟩
  | removal d orders => exact ⟨[], shows.order_foreign (fun _ => rfl) orders⟩
  | unsubscribe d other id =>
    by_cases same : other = feed
    · subst same
      exact ⟨[.unsubscribe id], shows.follow (·.unsubscribe id)⟩
    · exact ⟨[], shows.follow_foreign same _⟩

/-- A call to poll looks whether a poll is under way. -/
theorem Shows.enter (shows : Shows feed 1 rounds d p) (caller : Option Caller) :
    Shows feed 0 rounds (d.poll feed caller) p.enter := by
  have waiting : p.calls ≠ 0 := by
    rw [shows.calls]
    decide
  have left : p.calls - 1 = 0 := by
    rw [shows.calls]
  unfold Desk.poll Poller.enter
  rw [if_neg waiting, ← shows.store]
  cases p.store.startPoll with
  | none =>
    have looked : Shows feed 0 rounds d { p with calls := p.calls - 1 } :=
      { shows with calls := left }
    exact looked.aside (tellPolled_aside d caller feed)
  | some store =>
    have called := (shows.withStore store).call (.get (feed.url d.settings.backend)) caller
    exact { called with calls := left }

theorem Shows.poll (shows : Shows feed 0 rounds d p) (source : Source feed.State)
    (caller : Option Caller) :
    Shows feed 0 rounds (d.poll feed caller) (Poller.run source p [.poll, .enter]) := by
  have called : Shows feed 1 rounds d { p with calls := p.calls + 1 } :=
    { shows with calls := congrArg (· + 1) shows.calls }
  exact called.enter caller

theorem Shows.poll_foreign {other : Feed} (shows : Shows feed calls rounds d p)
    (different : other ≠ feed) (caller : Option Caller) :
    Shows feed calls rounds (d.poll other caller) p := by
  unfold Desk.poll
  split
  · exact shows.aside (tellPolled_aside d caller other)
  · next store _ =>
    have foreign : Task.polls feed (.poll other caller) = false := decide_eq_false different
    exact (shows.withStore_foreign different store).call_foreign foreign _

/-- A poll that has settled: the store takes the outcome, its observers get their snapshot and do
what they do about it, and the next poll is armed. -/
theorem Shows.settleStore {call : Call} {caller : Option Caller}
    (shows : Shows feed 0 [] d p) (orderly : Orderly settings d) (pending : call ∈ d.calls)
    (task : call.task = .poll feed caller) (outcome : Except Fault feed.State) :
    ∃ events, Shows feed 0 [] ((d.forget call.ticket).settleStore feed outcome)
      (Poller.run (feed.source settings.polling) p events) := by
  let source := feed.source settings.polling
  let store := p.store.settle source outcome
  let round : Round feed.State Observer := ⟨store.snapshot, store.observers⟩
  let forgotten := d.forget call.ticket
  have own : call.task.polls feed = true := by
    rw [task]
    exact decide_eq_true rfl
  have counted := (orderly.tasks_perm pending).countP_eq (Task.polls feed)
  rw [List.countP_cons_of_pos own, ← shows.fetching] at counted
  have left : Shows feed 0 [] forgotten { p with fetching := p.fetching - 1 } :=
    { shows with
      store := shows.store.trans (store_of_same rfl rfl feed).symm
      fetching := Nat.sub_eq_of_eq_add counted }
  have settled : p.step source (.settle outcome) =
      { p with store, fetching := p.fetching - 1, rounds := [round] } := by
    simp [Poller.step, Poller.settle, counted, shows.rounds, store, round]
  have begun : Shows feed 0 [round] (forgotten.withStore feed store)
      (p.step source (.settle outcome)) := by
    rw [settled]
    exact { left.withStore store with rounds := rfl }
  -- A desk delivers at once; alone, the store first lives through all that the observers do about
  -- the snapshot, and then hands the round out to its end. No observer has a say in that.
  obtain ⟨events, delivered⟩ := begun.stir (deliverAll_stir _ (feed.snapshot store.snapshot)
    store.observers) source
  let told := Poller.run source (p.step source (.settle outcome)) events
  have ended : Shows feed 0 []
      ((forgotten.withStore feed store).deliverAll (feed.snapshot store.snapshot)
        store.observers) { told with rounds := [] } :=
    { delivered with rounds := rfl }
  have armed := ended.follow (·.rearm source store.snapshot)
  refine ⟨.settle outcome :: events ++ .replicate (round.waiting.length + 1) (.proceed 0), ?_⟩
  rw [List.cons_append, Poller.run_cons, Poller.run_append,
    Poller.run_round _ _ _ delivered.rounds]
  have kept : forgotten.store feed = p.store :=
    (store_of_same rfl rfl feed).trans shows.store.symm
  have known : forgotten.settings = settings := orderly.settings
  unfold Desk.settleStore
  rw [kept, known]
  exact armed

/-- Work on the agenda is due: the timer of the store fires, or something else happens. -/
theorem Shows.ring {alarm : Alarm Duty} {agenda : Agenda Duty} (shows : Shows feed 0 [] d p)
    (valid : p.Valid) (taken : d.agenda.takeDue d.now = some (alarm, agenda))
    (source : Source feed.State) :
    ∃ events, Shows feed 0 [] ({ d with agenda }.ring alarm.key)
      (Poller.run source p events) := by
  have elsewhere (foreign : Duty.pollOf feed alarm.key = none) :
      Shows feed 0 [] { d with agenda } p :=
    { shows with
      store := shows.store.trans (store_of_same rfl rfl feed).symm
      agenda := shows.agenda.takeDue_foreign taken foreign }
  cases key : alarm.key with
  | poll other number =>
    by_cases same : other = feed
    · subst same
      have few := Agenda.length_alarms_le_one valid.keys
      have reads : Duty.pollOf other alarm.key = some number := by simp [Duty.pollOf, key]
      obtain ⟨left, due, mirrors⟩ := shows.agenda.takeDue_own few taken reads
      rw [Desk.now, ← shows.agenda.now] at due
      have fired : p.fire =
          { p with store := p.store.fire number, agenda := left, calls := p.calls + 1 } := by
        simp [Poller.fire, due]
      have looking : Shows other 1 [] { d with agenda }
          { p with agenda := left, calls := p.calls + 1 } :=
        { shows with
          store := shows.store.trans (store_of_same rfl rfl other).symm
          agenda := mirrors
          calls := congrArg (· + 1) shows.calls }
      refine ⟨[.fire, .enter], ?_⟩
      show Shows other 0 [] _ p.fire.enter
      rw [fired, shows.store]
      exact (looking.withStore _).enter none
    · have foreign : Duty.pollOf feed alarm.key = none := by simp [Duty.pollOf, key, same]
      have left := elsewhere foreign
      exact ⟨[], (left.withStore_foreign same _).poll_foreign same none⟩
  | question epoch =>
    have left := elsewhere (by rw [key]; rfl)
    refine ⟨[], ?_⟩
    show Shows feed 0 [] ({ d with agenda }.question epoch) p
    unfold Desk.question
    split
    · exact left
    · next runner _ =>
      have same : Shows feed 0 [] { d with agenda, runner } p :=
        left.of_same (store_of_same rfl rfl feed) rfl rfl
      exact same.call_foreign rfl _
  | removal notice =>
    have left := elsewhere (by rw [key]; rfl)
    exact left.stir (dismiss_stir _ notice) source

/-! ## Whatever happens -/

/-- What the runner does concerns no store. -/
theorem Shows.runner (shows : Shows feed calls rounds d p)
    (change : Runner × List (Order Nat)) :
    Shows feed calls rounds ({ d with runner := change.1 }.order .question change.2) p := by
  have same : Shows feed calls rounds { d with runner := change.1 } p :=
    shows.of_same (store_of_same rfl rfl feed) rfl rfl
  exact same.order_foreign (fun _ => rfl) change.2

theorem Shows.run_foreign (shows : Shows feed calls rounds d p) (caller : Caller)
    (jobId message : String) (starter : Starter) :
    Shows feed calls rounds (d.run caller jobId message starter) p := by
  unfold Desk.run
  split
  · exact shows.aside (tellRefused_aside d caller)
  · next runner orders _ =>
    have moved := shows.runner (runner, orders)
    cases starter with
    | done result =>
      exact (moved.runner (runner.started d.settings.runner runner.epoch result)).aside
        (tellStarted_aside _ caller)
    | request request => exact moved.call_foreign rfl _
    | kind kind => exact moved.call_foreign rfl _

theorem Shows.settleQuestion_foreign (shows : Shows feed calls rounds d p) (epoch : Nat)
    (result : Except Fault String) : Shows feed calls rounds (d.settleQuestion epoch result) p := by
  have moved := shows.runner
    (d.runner.answered d.settings.runner epoch (readBody JobState.decoder result))
  unfold Desk.settleQuestion
  dsimp only
  split
  · exact moved.aside ⟨rfl, Nat.le_refl _⟩
  · exact moved

/-- A poll of another store has settled: what the observers of that one do may concern this one. -/
theorem Shows.settleStore_foreign {other : Feed} (shows : Shows feed calls rounds d p)
    (different : other ≠ feed) (outcome : Except Fault other.State)
    (source : Source feed.State) :
    ∃ events, Shows feed calls rounds (d.settleStore other outcome)
      (Poller.run source p events) := by
  let store := (d.store other).settle (other.source d.settings.polling) outcome
  obtain ⟨events, delivered⟩ := (shows.withStore_foreign different store).stir
    (deliverAll_stir _ (other.snapshot store.snapshot) store.observers) source
  exact ⟨events, delivered.follow_foreign different _⟩

/-- Whatever a desk does, a store alone does its part of it. -/
theorem Shows.moves (moves : Moves d e) (orderly : Orderly settings d) (valid : p.Valid)
    (shows : Shows feed 0 [] d p) :
    ∃ events, Shows feed 0 [] e (Poller.run (feed.source settings.polling) p events) := by
  induction moves generalizing p with
  | trans early _ first second =>
    obtain ⟨before, shows⟩ := first orderly valid shows
    have still := Poller.run_valid valid (feed.source settings.polling) before
    obtain ⟨after, shows⟩ := second (orderly.moves early) still shows
    refine ⟨before ++ after, ?_⟩
    rw [Poller.run_append]
    exact shows
  | stir stir => exact shows.stir stir _
  | subscribe d other observer =>
    by_cases same : other = feed
    · subst same
      exact ⟨[.subscribe observer], shows.follow fun store => (store.subscribe observer).2⟩
    · exact ⟨[], shows.follow_foreign same _⟩
  | poll d other caller =>
    by_cases same : other = feed
    · subst same
      exact ⟨[.poll, .enter], shows.poll _ caller⟩
    · exact ⟨[], shows.poll_foreign same caller⟩
  | @settlePoll d call other caller pending task result =>
    by_cases same : other = feed
    · subst same
      obtain ⟨events, settled⟩ := shows.settleStore orderly pending task (other.read result)
      exact ⟨events, settled.aside (tellPolled_aside _ caller other)⟩
    · have foreign : call.task.polls feed = false := by
        rw [task]
        exact decide_eq_false same
      have forgotten := shows.forget_foreign orderly pending foreign
      obtain ⟨events, settled⟩ := forgotten.settleStore_foreign same (other.read result)
        (feed.source settings.polling)
      exact ⟨events, settled.aside (tellPolled_aside _ caller other)⟩
  | run d caller jobId message starter =>
    exact ⟨[], shows.run_foreign caller jobId message starter⟩
  | reset d => exact ⟨[], shows.runner d.runner.reset⟩
  | settleStart pending task outcome =>
    have forgotten := shows.forget_foreign orderly pending (by rw [task]; rfl)
    exact ⟨[], (forgotten.runner _).aside (tellStarted_aside _ _)⟩
  | settleQuestion pending task result =>
    have forgotten := shows.forget_foreign orderly pending (by rw [task]; rfl)
    exact ⟨[], forgotten.settleQuestion_foreign _ result⟩
  | call d request own => exact ⟨[], shows.call_foreign (polls_of_isExport own feed) request⟩
  | forget pending own =>
    exact ⟨[], shows.forget_foreign orderly pending (polls_of_isExport own feed)⟩
  | resend pending =>
    exact ⟨[], shows.of_same (store_of_same rfl rfl feed) rfl ((orderly.only pending).resend_tasks)⟩
  | pass d span =>
    exact ⟨[.pass span],
      { shows with
        store := shows.store.trans (store_of_same rfl rfl feed).symm
        agenda := shows.agenda.pass span }⟩
  | ring taken => exact shows.ring valid taken _

/-- In the life of a desk, a store alone lives its part of it. -/
theorem Shows.live (orderly : Orderly settings d) (valid : p.Valid) (shows : Shows feed 0 [] d p)
    (events : List Event) :
    ∃ part, Shows feed 0 [] (d.live events)
      (Poller.run (feed.source settings.polling) p part) := by
  induction events generalizing d p with
  | nil =>
    refine ⟨[], ?_⟩
    rw [live_nil, Poller.run_nil]
    exact shows
  | cons event events ih =>
    have moves := step_moves d event
    rw [live_cons]
    obtain ⟨before, shows⟩ := shows.moves moves orderly valid
    have still := Poller.run_valid valid (feed.source settings.polling) before
    obtain ⟨after, shows⟩ := ih (orderly.moves moves) still shows
    refine ⟨before ++ after, ?_⟩
    rw [Poller.run_append]
    exact shows

theorem ofSettings_shows (settings : Settings) (hooked : Bool) (feed : Feed) :
    Shows feed 0 [] (ofSettings settings hooked)
      (.ofSource (feed.source settings.polling)) where
  store := by cases feed <;> rfl
  agenda := ⟨rfl, List.Perm.refl _⟩
  fetching := rfl
  calls := rfl
  rounds := rfl

/-- In every life of a desk, each of its stores is where a run of the store alone ends. -/
theorem live_shows (settings : Settings) (hooked : Bool) (feed : Feed) (events : List Event) :
    ∃ part, Shows feed 0 [] ((ofSettings settings hooked).live events)
      (Poller.run (feed.source settings.polling) (.ofSource (feed.source settings.polling)) part) :=
  (ofSettings_shows settings hooked feed).live (ofSettings_orderly settings hooked)
    (Poller.ofSource_valid _) events

/-- In every life of a desk and for each of its stores: at most one poll of the store is on the
agenda, and at most one is under way. If nobody observes the store, none is on the agenda; if
somebody does, one is on the agenda or under way. -/
theorem live_polls (settings : Settings) (hooked : Bool) (feed : Feed) (events : List Event) :
    let d := (ofSettings settings hooked).live events
    let timers := (Agenda.share (Duty.pollOf feed) d.agenda.alarms).length
    let fetches := d.tasks.countP (Task.polls feed)
    timers ≤ 1 ∧ fetches ≤ 1 ∧ ((d.store feed).observers = [] → timers = 0) ∧
      ((d.store feed).observers ≠ [] → 0 < timers + fetches) := by
  intro d timers fetches
  obtain ⟨part, shows⟩ := live_shows settings hooked feed events
  have valid := Poller.run_valid (Poller.ofSource_valid (feed.source settings.polling))
    (feed.source settings.polling) part
  generalize Poller.run _ _ part = p at shows valid
  have live : timers = p.agenda.alarms.length := shows.agenda.alarms.length_eq.symm
  have busy : fetches = p.store.busy.toNat := shows.fetching.symm.trans valid.fetching
  have rested : p.Rested := ⟨shows.calls, shows.rounds⟩
  rw [← shows.store, live, busy]
  refine ⟨Agenda.length_alarms_le_one valid.keys, Bool.toNat_le _, ?_, ?_⟩
  · intro empty
    rw [valid.alarms_of_unobserved empty]
    rfl
  · intro present
    rw [← Agenda.length_keys, valid.keys]
    rcases valid.observed present with armed | under | working
    · cases timer : p.store.timer with
      | none => exact absurd timer armed
      | some number =>
        rw [Option.toList_some, List.length_singleton]
        omega
    · simp [under]
    · exact absurd rested working

end Desk

end Watchdesk
