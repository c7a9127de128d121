import Watchdesk.Proofs.Desk.Chasing
import Watchdesk.Proofs.Desk.Slot
import Watchdesk.Proofs.Desk.Staff
import Watchdesk.Proofs.Desk.Traffic
import Watchdesk.Proofs.Running.Superseded

/-!
# What is left when those who serve return

Whoever comes to serve either finds the port taken and returns at once, or serves until the desk is
closed. In both cases the stores are left to the others who observe them, with no timer where there
are none, and neither notices nor exports have to do with it. Whoever returns after the desk was
closed has the runner give up as well, and no call that is then under way ever reaches it.
-/

namespace Watchdesk

/-- The run of the runner that a call belongs to, by its epoch. -/
def Task.runOf : Task → Option Nat
  | .start epoch _ _ | .question epoch => some epoch
  | .poll _ _ | .probe _ | .batch _ _ => none

namespace Desk

variable {settings : Settings} {feed : Feed} {d e f : Desk}

/-! ## Calls that were made before -/

/-- A change in which calls are settled or sent again, and new calls get new tickets. -/
structure Ages (d e : Desk) : Prop where
  tickets : d.tickets ≤ e.tickets
  calls : ∀ call ∈ e.calls, call.ticket ≤ d.tickets →
    ∃ old ∈ d.calls, old.ticket = call.ticket ∧ old.task = call.task

theorem Ages.of_old (tickets : d.tickets ≤ e.tickets)
    (calls : ∀ call ∈ e.calls, ∃ old ∈ d.calls, old.ticket = call.ticket ∧ old.task = call.task) :
    Ages d e := ⟨tickets, fun call member _ => calls call member⟩

theorem Ages.refl (d : Desk) : Ages d d :=
  .of_old (Nat.le_refl _) fun call member => ⟨call, member, rfl, rfl⟩

theorem Ages.trans (first : Ages d e) (second : Ages e f) : Ages d f where
  tickets := Nat.le_trans first.tickets second.tickets
  calls := by
    intro call member old
    obtain ⟨between, there, ticket, task⟩ :=
      second.calls call member (Nat.le_trans old first.tickets)
    obtain ⟨before, here, own, same⟩ := first.calls between there (ticket ▸ old)
    exact ⟨before, here, own.trans ticket, same.trans task⟩

theorem Asks.ages (asks : Asks d e) : Ages d e where
  tickets := asks.tickets
  calls := by
    intro call member old
    obtain ⟨new, calls, asked⟩ := asks.calls
    rw [calls] at member
    rcases List.mem_append.mp member with earlier | opened
    · exact ⟨call, earlier, rfl, rfl⟩
    · have later := (asked call opened).1
      omega

theorem Orderly.resend_ages (orderly : Orderly settings d) {call : Call}
    (pending : call ∈ d.calls) : Ages d (d.resend call) := by
  refine .of_old (Nat.le_refl _) ?_
  intro other member
  rw [(orderly.only pending).resend_calls] at member
  obtain ⟨old, earlier, rfl⟩ := List.mem_map.mp member
  exact ⟨old, earlier, rfl, rfl⟩

theorem forget_ages (d : Desk) (ticket : Nat) : Ages d (d.forget ticket) := by
  refine .of_old (Nat.le_refl _) ?_
  intro call member
  exact ⟨call, List.mem_of_mem_filter member, rfl, rfl⟩

theorem Handles.ages {event : Event} (handles : Handles d event e) (orderly : Orderly settings d) :
    Ages d e := by
  cases handles with
  | asks other bare asks => exact asks.ages
  | @starts event e request epoch caller anyReply accepted same =>
    have calls : e.calls = (d.call request (.start epoch caller anyReply)).calls :=
      congrArg Traffic.calls same
    have tickets : e.tickets = d.tickets + 1 := congrArg Traffic.tickets same
    refine ⟨by omega, ?_⟩
    intro call member old
    rw [calls] at member
    rcases List.mem_append.mp member with earlier | opened
    · exact ⟨call, earlier, rfl, rfl⟩
    · rw [List.mem_singleton.mp opened] at old
      exact absurd old (Nat.not_succ_le_self _)
  | settles pending asks => exact (forget_ages d _).trans asks.ages
  | saves asks =>
    refine Ages.trans ?_ asks.ages
    exact .of_old (Nat.le_refl _) fun call member => ⟨call, member, rfl, rfl⟩
  | pauses pending question span =>
    unfold Desk.pause
    split
    · exact orderly.resend_ages pending
    · exact .of_old (Nat.le_refl _) fun call member => ⟨call, member, rfl, rfl⟩
  | @rests pause pauses first =>
    exact .of_old (Nat.le_refl _) fun call member => ⟨call, member, rfl, rfl⟩
  | @repeats pause pauses call first due pending own =>
    have rested : Ages d { d with pauses } :=
      .of_old (Nat.le_refl _) fun call member => ⟨call, member, rfl, rfl⟩
    have kept : Orderly settings { d with pauses } := orderly.of_same rfl rfl (Nat.le_refl _)
    exact rested.trans (kept.resend_ages pending)
  | handOut => exact .of_old (Nat.le_refl _) fun call member => ⟨call, member, rfl, rfl⟩

theorem Reachable.ages (reachable : d.Reachable settings) (events : List Event) :
    Ages d (d.live events) := by
  induction events generalizing d with
  | nil => exact .refl d
  | cons event events ih =>
    have first := (reachable.orderly.step_handles event).ages reachable.orderly
    exact first.trans (ih (reachable.step event))

/-! ## Calls of runs that are over -/

/-- No run of the runner is later than the current one. -/
theorem Reachable.runOf_le (reachable : d.Reachable settings) {call : Call}
    (pending : call ∈ d.calls) {epoch : Nat} (own : call.task.runOf = some epoch) :
    epoch ≤ d.runner.epoch := by
  obtain ⟨hooked, events, rfl⟩ := reachable
  obtain ⟨part, follows⟩ := live_followed settings hooked events
  have valid := Chase.run_valid Chase.empty_valid settings.runner part
  have listed := List.mem_map_of_mem (f := Call.task) pending
  rw [← follows.runner]
  cases task : call.task with
  | start epoch caller anyReply =>
    rw [task] at own listed
    cases own
    have started : epoch ∈ (tasks _).filterMap Task.startOf :=
      List.mem_filterMap.mpr ⟨_, listed, rfl⟩
    exact valid.begun epoch (follows.starts.mem_iff.mpr started)
  | question epoch =>
    rw [task] at own listed
    cases own
    have asked : epoch ∈ (tasks _).filterMap Task.questionOf :=
      List.mem_filterMap.mpr ⟨_, listed, rfl⟩
    exact valid.questioned epoch (follows.questions.mem_iff.mpr asked)
  | poll other caller => rw [task] at own; cases own
  | probe order => rw [task] at own; cases own
  | batch order run => rw [task] at own; cases own

theorem Reachable.epoch_le_live (reachable : d.Reachable settings) (events : List Event) :
    d.runner.epoch ≤ (d.live events).runner.epoch := by
  have orderly := reachable.orderly
  obtain ⟨hooked, earlier, rfl⟩ := reachable
  obtain ⟨part, follows⟩ := live_followed settings hooked earlier
  have valid := Chase.run_valid Chase.empty_valid settings.runner part
  obtain ⟨more, later⟩ := follows.live orderly valid events
  rw [← follows.runner, ← later.runner]
  exact Chase.epoch_le_run _ settings.runner more

/-- All calls for the runner belong to runs that are over. -/
def Superseded (d : Desk) : Prop :=
  ∀ call ∈ d.calls, ∀ epoch, call.task.runOf = some epoch → epoch < d.runner.epoch

/-- A call of a run that is over leaves the runner alone, whatever the answer. -/
theorem settle_superseded {task : Task} {epoch : Nat} (own : task.runOf = some epoch)
    (past : epoch < d.runner.epoch) (result : Except Fault String) :
    (d.settle task result).runner = d.runner ∧ (d.settle task result).agenda = d.agenda := by
  have stale : d.runner.epoch ≠ epoch := Nat.ne_of_gt past
  cases task with
  | start run caller anyReply =>
    cases own
    simp only [settle]
    rw [settleStart_superseded stale]
    cases caller with
    | operator number => exact ⟨rfl, rfl⟩
    | page number => exact ⟨rfl, rfl⟩
  | question run =>
    cases own
    simp only [settle]
    rw [settleQuestion_superseded stale]
    exact ⟨rfl, rfl⟩
  | poll other caller => cases own
  | probe order => cases own
  | batch order run => cases own

/-- Once the runs of all calls are over, no answer to any of them ever reaches the runner. -/
theorem Superseded.answer (superseded : d.Superseded) (reachable : d.Reachable settings)
    (later : List Event) {call : Call} (pending : call ∈ d.calls) {epoch : Nat}
    (own : call.task.runOf = some epoch) (answer : Except Fault Reply) :
    ((d.live later).answer call.ticket answer).runner = (d.live later).runner ∧
      ((d.live later).answer call.ticket answer).agenda = (d.live later).agenda := by
  have cases := answer_cases (d.live later) call.ticket answer
  cases settled : (d.live later).settlement call.ticket answer with
  | none =>
    rw [settled] at cases
    rcases cases with same | ⟨again, -, span, paused⟩
    · rw [same]
      exact ⟨rfl, rfl⟩
    · rw [paused]
      unfold Desk.pause
      split
      · exact ⟨rfl, rfl⟩
      · exact ⟨rfl, rfl⟩
  | some settlement =>
    obtain ⟨task, result⟩ := settlement
    obtain ⟨there, waits, ticket, rfl⟩ := pending_of_settlement settled
    -- The call that settles is the one that was there, perhaps sent again.
    have issued : there.ticket ≤ d.tickets := ticket ▸ reachable.orderly.issued call pending
    obtain ⟨old, earlier, same, task⟩ := (reachable.ages later).calls there waits issued
    have only := reachable.orderly.only pending old earlier (same.trans ticket)
    subst only
    have past := Nat.lt_of_lt_of_le (superseded old earlier epoch own)
      (reachable.epoch_le_live later)
    rw [answer_of_settlement settled]
    exact settle_superseded (d := (d.live later).forget old.ticket) (task ▸ own) past result

/-! ## Leaving -/

/-- What becomes of a desk when somebody lets their observers go: the stores are left to the others,
with no timer where there are none, and notices and exports are as before. -/
structure Leaves (others : Feed → List (Nat × Observer)) (d e : Desk) : Prop where
  observers : ∀ feed, (e.store feed).observers = others feed
  timers : ∀ feed, (e.store feed).observers = [] → e.timers feed = []
  board : e.board = d.board
  slot : e.slot = d.slot

/-- What becomes of a desk when somebody returns who served: the runner has given up as well, and
no call that is under way reaches it when it settles. -/
structure Returns (others : Feed → List (Nat × Observer)) (d e : Desk) : Prop
    extends Leaves others d e where
  idle : e.runner.view = {}
  rests : e.runner.timer = none
  questions : Agenda.share Duty.questionOf e.agenda.alarms = []
  late : ∀ later : List Event, ∀ call ∈ e.calls, call.task.runOf ≠ none → ∀ answer,
    ((e.live later).step (.answer call.ticket answer)).runner = (e.live later).runner ∧
      ((e.live later).step (.answer call.ticket answer)).agenda = (e.live later).agenda

theorem order_board {κ : Type} {duty : κ → Duty} (foreign : ∀ key, (duty key).removalOf = none)
    (d : Desk) (orders : List (Order κ)) : (d.order duty orders).board = d.board :=
  congrArg (Board.mk d.center) (Agenda.shareOf_obeyAll_foreign foreign d.agenda _)

theorem unsubscribe_board (d : Desk) (feed : Feed) (id : Nat) :
    (d.unsubscribe feed id).board = d.board := by
  have stored : (d.withStore feed ((d.store feed).unsubscribe id).1).board = d.board := by
    cases feed with
    | job => rfl
    | health => rfl
  unfold unsubscribe follow
  rw [order_board fun _ => rfl, stored]

theorem unobserve_board (d : Desk) (jobObserver healthObserver : Nat) :
    (d.unobserve jobObserver healthObserver).board = d.board := by
  unfold unobserve
  rw [unsubscribe_board, unsubscribe_board]

theorem reset_board (d : Desk) : d.reset.board = d.board :=
  order_board (fun _ => rfl) { d with runner := d.runner.reset.1 } d.runner.reset.2

/-- A shift that ends is over with the runner's job, and is told. -/
theorem endShift_spares (d : Desk) (s : Shift) :
    (d.endShift s).runner = d.runner.reset.1 ∧ (d.endShift s).calls = d.calls ∧
      (d.endShift s).reports = d.reports ++ [.served s.caller (.ok ())] := ⟨rfl, rfl, rfl⟩

theorem endShift_board (d : Desk) (s : Shift) : (d.endShift s).board = d.board := by
  show ((d.unobserve s.jobObserver s.healthObserver).reset).board = d.board
  rw [reset_board, unobserve_board]

/-- All shifts end, one after another. -/
theorem endShifts_spares (shifts : List Shift) (d : Desk) :
    (shifts.foldl endShift d).board = d.board ∧ (shifts.foldl endShift d).calls = d.calls ∧
      (shifts.foldl endShift d).runner.epoch = d.runner.epoch + shifts.length ∧
      (shifts.foldl endShift d).reports =
        d.reports ++ shifts.map fun s => .served s.caller (.ok ()) := by
  induction shifts generalizing d with
  | nil => exact ⟨rfl, rfl, rfl, (List.append_nil _).symm⟩
  | cons s shifts ih =>
    obtain ⟨board, calls, epoch, reports⟩ := ih (d.endShift s)
    obtain ⟨runner, own, told⟩ := d.endShift_spares s
    refine ⟨board.trans (d.endShift_board s), calls.trans own, ?_, ?_⟩
    · have renewed : (d.endShift s).runner.epoch = d.runner.epoch + 1 :=
        congrArg Runner.epoch runner
      rw [List.foldl_cons, epoch, renewed, List.length_cons]
      omega
    · rw [List.foldl_cons, reports, told, List.map_cons, List.append_assoc, List.singleton_append]

theorem endShifts_rest {shifts : List Shift} (some : shifts ≠ []) (d : Desk) :
    (shifts.foldl endShift d).runner.view = {} ∧
      (shifts.foldl endShift d).runner.timer = none := by
  induction shifts generalizing d with
  | nil => exact absurd rfl some
  | cons s shifts ih =>
    rw [List.foldl_cons]
    cases shifts with
    | nil => exact ⟨rfl, rfl⟩
    | cons next shifts => exact ih (List.cons_ne_nil next shifts) (d.endShift s)

/-! ## Returning -/

/-- No question stands on the agenda while the runner does not run. -/
theorem Reachable.questions_of_idle (reachable : d.Reachable settings)
    (idle : d.runner.view.status ≠ .running) :
    Agenda.share Duty.questionOf d.agenda.alarms = [] := by
  obtain ⟨hooked, events, rfl⟩ := reachable
  obtain ⟨-, -, loaded⟩ := live_questions settings hooked events
  rw [if_neg idle] at loaded
  apply List.length_eq_zero_iff.mp
  omega

/-- A runner that has given up since has superseded all calls. -/
theorem Reachable.superseded (reachable : d.Reachable settings) (calls : e.calls = d.calls)
    (renewed : d.runner.epoch < e.runner.epoch) : e.Superseded := by
  intro call pending epoch own
  rw [calls] at pending
  exact Nat.lt_of_le_of_lt (reachable.runOf_le pending own) renewed

theorem Leaves.returns {others : Feed → List (Nat × Observer)} (leaves : Leaves others d e)
    (reachable : e.Reachable settings) (rest : e.runner.view = {} ∧ e.runner.timer = none)
    (superseded : e.Superseded) : Returns others d e where
  toLeaves := leaves
  idle := rest.1
  rests := rest.2
  questions := by
    apply reachable.questions_of_idle
    rw [rest.1]
    exact RunnerStatus.noConfusion
  late := by
    intro later call pending serves answer
    obtain ⟨epoch, own⟩ := Option.ne_none_iff_exists'.mp serves
    exact superseded.answer reachable later pending own answer

/-- When the desk is closed, all who serve return. -/
theorem Reachable.shutDown_returns (reachable : d.Reachable settings) (serves : d.shifts ≠ []) :
    Returns d.others d d.shutDown := by
  have closed : d.shutDown.Reachable settings := reachable.step .shutDown
  obtain ⟨board, calls, epoch, -⟩ :=
    endShifts_spares d.shifts { d with closed := true, shifts := [] }
  have leaves : Leaves d.others d d.shutDown :=
    { observers := d.shutDown_observers
      timers := fun feed => closed.timers_of_unobserved
      board := board
      slot := (Acts.quiet (shutDown_acts (by rfl) (by rfl) d)).slot }
  have some : 0 < d.shifts.length := List.length_pos_iff.mpr serves
  have renewed : d.runner.epoch < d.shutDown.runner.epoch := by
    unfold shutDown
    rw [epoch]
    exact Nat.lt_add_of_pos_right some
  exact leaves.returns closed (endShifts_rest serves _) (reachable.superseded calls renewed)

/-- Whoever comes to serve at a closed desk returns at once. -/
theorem Reachable.serve_returns (reachable : d.Reachable settings) (caller : Caller)
    {taken : Option Nat} (free : d.portBlocked taken = false) (closed : d.closed = true) :
    Returns (fun feed => (d.store feed).observers) d (d.serve caller taken) := by
  have served : (d.serve caller taken).Reachable settings := reachable.step (.serve caller taken)
  have equal := reachable.serve_of_closed caller free closed
  have leaves : Leaves (fun feed => (d.store feed).observers) d (d.serve caller taken) :=
    { observers := by
        intro feed
        rw [(reachable.serve_store caller (.inr closed) feed).1]
        rfl
      timers := fun feed => served.timers_of_unobserved
      board := by
        rw [equal]
        exact reset_board d.spent
      slot := (serve_quiet d caller taken).slot }
  have rest : (d.serve caller taken).runner.view = {} ∧
      (d.serve caller taken).runner.timer = none := by
    rw [equal]
    exact ⟨rfl, rfl⟩
  have calls : (d.serve caller taken).calls = d.calls := by
    rw [equal]
    rfl
  have renewed : d.runner.epoch < (d.serve caller taken).runner.epoch := by
    rw [equal]
    exact Nat.lt_succ_self d.runner.epoch
  exact leaves.returns served rest (reachable.superseded calls renewed)

/-- Whoever has come to both stores can be told from the others until they go. -/
theorem Reachable.observe_known (reachable : d.Reachable settings) (meanwhile : List Event) :
    ∀ feed, ∀ o ∈ ((d.observe.2.2.live meanwhile).store feed).observers,
      o.1 = (d.store feed).nextId → o = ((d.store feed).nextId, feed.servant) := by
  intro feed o observes own
  have come : d.observe.2.2.Reachable settings :=
    reachable.live [.subscribe .job .announcer, .subscribe .health .keeper]
  obtain ⟨nextId, observers⟩ := d.observe_store feed
  have joins := come.joins (live_moves d.observe.2.2 meanwhile) feed
  have there := joins.known observes (by omega)
  rw [observers] at there
  rcases List.mem_append.mp there with before | now
  · have bound := (reachable.numbered feed).given o before
    omega
  · exact List.mem_singleton.mp now

/-- Whoever goes before they serve lets their own observers go, whatever happened meanwhile. -/
theorem Reachable.unobserve_leaves (reachable : d.Reachable settings) (s : Shift) :
    Leaves (fun feed => (d.store feed).observers.filter fun o => o.1 ≠ s.observer feed) d
      (d.unobserve s.jobObserver s.healthObserver) where
  observers := unobserve_observers d s
  timers := by
    intro feed
    have gone : (d.unobserve s.jobObserver s.healthObserver).Reachable settings :=
      reachable.live [.unsubscribe .job s.jobObserver, .unsubscribe .health s.healthObserver]
    exact gone.timers_of_unobserved
  board := unobserve_board d _ _
  slot := (Acts.quiet (unobserve_acts d _ _)).slot

/-- Whatever a desk has lived through when somebody comes to serve, and whatever happens until they
return: who else observes the stores is none of their business. If the port is taken, they return at
once, and the desk is as it was but for the numbers that they were given; even if others came in
between their coming and their going, they would take nobody along but their own observers. If the
desk is closed already, they return at once as well, and otherwise when it is closed, with all who
serve then: the stores are left to the others, no timer is live where there are none, notices and
exports are as just before, the runner is idle without a question on the agenda, and no call that is
then under way changes it when it settles later. The others are those who were there before, with
those who come meanwhile and without those who go.

A desk is closed here at the moment at which those who serve go. Where they are told to go before
that, and wait for the visits under way, the time between is part of what happens meanwhile. -/
theorem serve_balanced (settings : Settings) (hooked : Bool) (earlier : List Event)
    (caller : Caller) (taken : Option Nat) :
    let d := (ofSettings settings hooked).live earlier
    let e := d.serve caller taken
    (∀ feed, e.others feed = d.others feed) ∧
    (d.portBlocked taken = true →
      e = d.spent.tell (.served caller (.error (portTaken settings.interface.port))) ∧
      Leaves (fun feed => (d.store feed).observers) d e) ∧
    (∀ meanwhile,
      let f := d.observe.2.2.live meanwhile
      let g := f.unobserve d.jobs.nextId d.health.nextId
      (∀ feed, ∀ o ∈ (f.store feed).observers,
        o.1 = (d.store feed).nextId → o = ((d.store feed).nextId, feed.servant)) ∧
      Leaves (fun feed => (f.store feed).observers.filter fun o => o.1 ≠ (d.store feed).nextId)
        f g ∧ g.runner = f.runner) ∧
    (d.portBlocked taken = false → d.closed = true →
      Returns (fun feed => (d.store feed).observers) d e ∧
      e.reports = d.reports ++ [.served caller (.ok ())]) ∧
    (d.portBlocked taken = false → d.closed = false →
      ∀ meanwhile, (∀ event ∈ meanwhile, event ≠ .shutDown) →
        let f := e.live meanwhile
        d.nextShift caller ∈ f.shifts ∧
        (∀ feed, ∀ o ∈ (f.store feed).observers,
          o ∈ f.others feed ∨ ∃ s ∈ f.shifts, o = (s.observer feed, feed.servant)) ∧
        (∀ feed observer, (f.subscribe feed observer).2.others feed =
          f.others feed ++ [((f.store feed).nextId, observer)]) ∧
        (∀ feed id, (f.unsubscribe feed id).others feed =
          (f.others feed).filter fun o => o.1 ≠ id) ∧
        Returns f.others f f.shutDown ∧
        f.shutDown.reports = f.reports ++ f.shifts.map fun s => .served s.caller (.ok ())) := by
  intro d e
  have reachable : d.Reachable settings := ⟨hooked, earlier, rfl⟩
  have served : e.Reachable settings := reachable.step (.serve caller taken)
  refine ⟨reachable.serve_others caller taken, ?_, ?_, ?_, ?_⟩
  · intro blocked
    have same := reachable.serve_of_blocked caller blocked
    rw [reachable.orderly.settings] at same
    refine ⟨same, ?_, fun feed => served.timers_of_unobserved, ?_,
      (serve_quiet d caller taken).slot⟩
    · intro feed
      show ((d.serve caller taken).store feed).observers = _
      rw [(reachable.serve_store caller (.inl blocked) feed).1]
      rfl
    · show (d.serve caller taken).board = _
      rw [same]
      rfl
  · intro meanwhile f g
    have come : f.Reachable settings :=
      reachable.live (.subscribe .job .announcer :: .subscribe .health .keeper :: meanwhile)
    have leaves := come.unobserve_leaves (d.nextShift caller)
    simp only [nextShift_observer] at leaves
    exact ⟨reachable.observe_known meanwhile, leaves, rfl⟩
  · intro free closed
    refine ⟨reachable.serve_returns caller free closed, ?_⟩
    show (d.serve caller taken).reports = _
    rw [reachable.serve_of_closed caller free closed]
    rfl
  · intro free opened meanwhile goesOn f
    have reached : f.Reachable settings := served.live meanwhile
    have begun : d.nextShift caller ∈ e.shifts := by
      show _ ∈ (d.serve caller taken).shifts
      rw [serve_of_open caller free opened]
      exact List.mem_append_right _ (List.mem_singleton.mpr rfl)
    have serves := served.live_shifts goesOn begun
    refine ⟨serves, ?_, reached.subscribe_others, f.unsubscribe_others,
      reached.shutDown_returns (List.ne_nil_of_mem serves), ?_⟩
    · intro feed o member
      exact reached.mem_others member
    · exact (endShifts_spares f.shifts { f with closed := true, shifts := [] }).2.2.2

/-- A guest observes the health, and a job is being started. Whoever comes to serve finds the port
taken, or serves until the desk is closed, while somebody else comes to observe the job. Others come
to a desk that is closed. -/
theorem serve_balanced_of_guest :
    let earlier : List Event := [.subscribe .health .guest,
      .run (.operator 1) "nightly" "Starting" (.request (.get "http://a"))]
    let d := (ofSettings {} false).live earlier
    let f := (d.serve (.operator 2) none).live [.subscribe .job .keeper, .ring, .ring]
    let shut := (ofSettings {} false).live [.subscribe .job .keeper, .shutDown]
    d.serve (.operator 2) (some 11120) =
      d.spent.tell (.served (.operator 2) (.error (portTaken 11120))) ∧
    (f.store .job).observers = [(0, .announcer), (1, .keeper)] ∧
    (f.shutDown.store .job).observers = [(1, .keeper)] ∧
    (f.store .health).observers = [(0, .guest), (1, .keeper)] ∧
    (f.shutDown.store .health).observers = [(0, .guest)] ∧
    f.runner.view.status = .running ∧ f.shutDown.runner.view = {} ∧
    ((shut.serve (.operator 3) none).store .job).observers = [(0, .keeper)] := by
  intro earlier d f shut
  have goesOn : ∀ event ∈ [Event.subscribe .job .keeper, .ring, .ring], event ≠ .shutDown := by
    simp
  obtain ⟨-, blocked, -⟩ := serve_balanced {} false earlier (.operator 2) (some 11120)
  obtain ⟨-, -, -, -, opened⟩ := serve_balanced {} false earlier (.operator 2) none
  obtain ⟨-, -, -, closed, -⟩ := serve_balanced {} false [.subscribe .job .keeper, .shutDown]
    (.operator 3) none
  have returns : Returns f.others f f.shutDown :=
    (opened (by decide +kernel) (by decide +kernel) _ goesOn).2.2.2.2.1
  have job : f.others .job = [(1, .keeper)] := by decide +kernel
  have health : f.others .health = [(0, .guest)] := by decide +kernel
  have again : ((shut.serve (.operator 3) none).store .job).observers =
      (shut.store .job).observers :=
    (closed (by decide +kernel) (by decide +kernel)).1.observers .job
  have keeper : (shut.store .job).observers = [(0, .keeper)] := by decide +kernel
  exact ⟨(blocked (by decide +kernel)).1, by decide +kernel, (returns.observers .job).trans job,
    by decide +kernel, (returns.observers .health).trans health, by decide +kernel, returns.idle,
    again.trans keeper⟩

end Desk

end Watchdesk
