import Watchdesk.Proofs.Desk.Calls
import Watchdesk.Proofs.Desk.Posting
import Watchdesk.Proofs.Polling.Ledger

/-!
# What a desk keeps

Whatever happens at a desk, its board goes through a run. A desk that is closed stays closed; it
waits for no further batch of an export and hands out no further file. Only a poll of the job
changes what is known of the job and what the announcer remembers; all else that happens leaves
both as they are.
-/

namespace Watchdesk

/-- The file of an export is handed out. -/
def Dispatch.isSave : Dispatch → Bool
  | .save _ _ => true
  | .send _ _ => false

namespace Desk

/-- The batches that the desk waits for, by ticket. -/
def batches (d : Desk) : List Nat := (d.calls.filter fun c => c.task.isBatch).map Call.ticket

/-- The files that are still to be handed out. -/
def files (d : Desk) : List Dispatch := d.outbox.filter Dispatch.isSave

/-- A change in which the board goes through a run, and which does not open a closed desk, nor gives
it a further batch or file. -/
structure Spares (d e : Desk) : Prop extends Posts d e where
  closed : d.closed = true → e.closed = true
  batches : d.closed = true → e.batches.Sublist d.batches
  savings : d.closed = true → e.savings.Sublist d.savings
  files : d.closed = true → e.files.Sublist d.files

/-- A change that also leaves alone what is known of the job and remembered by the announcer. -/
structure Steady (d e : Desk) : Prop extends Spares d e where
  announcer : e.announcer = d.announcer
  known : e.jobs.snapshot = d.jobs.snapshot

variable {settings : Settings} {part : Part} {d e f : Desk}

theorem Spares.of_same (closed : e.closed = d.closed) (calls : e.calls = d.calls)
    (savings : e.savings = d.savings) (outbox : e.outbox = d.outbox) (posts : Posts d e) :
    Spares d e where
  toPosts := posts
  closed := fun shut => closed.trans shut
  batches := by
    intro _
    rw [Desk.batches, Desk.batches, calls]
  savings := by
    intro _
    rw [savings]
  files := by
    intro _
    rw [Desk.files, Desk.files, outbox]

theorem Spares.refl (d : Desk) : Spares d d := .of_same rfl rfl rfl rfl (.of_same rfl rfl)

theorem Spares.trans (first : Spares d e) (second : Spares e f) : Spares d f where
  toPosts := first.toPosts.trans second.toPosts
  closed := fun shut => second.closed (first.closed shut)
  batches := fun shut => (second.batches (first.closed shut)).trans (first.batches shut)
  savings := fun shut => (second.savings (first.closed shut)).trans (first.savings shut)
  files := fun shut => (second.files (first.closed shut)).trans (first.files shut)

theorem Steady.refl (d : Desk) : Steady d d := ⟨.refl d, rfl, rfl⟩

theorem Steady.trans (first : Steady d e) (second : Steady e f) : Steady d f where
  toSpares := first.toSpares.trans second.toSpares
  announcer := second.announcer.trans first.announcer
  known := second.known.trans first.known

/-! ## Calls and files -/

/-- A request is no file. -/
theorem files_of_sent {ticket : Nat} {request : Request}
    (outbox : e.outbox = d.outbox ++ [.send ticket request]) : e.files = d.files := by
  rw [Desk.files, Desk.files, outbox, List.filter_append]
  exact List.append_nil _

theorem call_spares (d : Desk) (request : Request) {task : Task}
    (fine : d.closed = true → task.isBatch = false) : Spares d (d.call request task) where
  toPosts := .of_same rfl rfl
  closed := id
  batches := by
    intro shut
    simp only [Desk.batches, Desk.call, List.filter_append, List.filter_singleton, fine shut]
    simp
  savings := fun _ => List.Sublist.refl _
  files := by
    intro _
    rw [files_of_sent rfl]

theorem forget_steady (d : Desk) (ticket : Nat) : Steady d (d.forget ticket) where
  toPosts := .of_same rfl rfl
  closed := id
  batches := fun _ => (List.filter_sublist.filter _).map _
  savings := fun _ => List.Sublist.refl _
  files := fun _ => List.Sublist.refl _
  announcer := rfl
  known := rfl

theorem resend_spares {call : Call} (only : d.Only call) : Spares d (d.resend call) where
  toPosts := .of_same rfl rfl
  closed := id
  batches := by
    intro _
    have same : (d.resend call).batches = d.batches := by
      unfold Desk.batches
      rw [only.resend_calls, List.filter_map, List.map_map]
      rfl
    rw [same]
  savings := fun _ => List.Sublist.refl _
  files := by
    intro _
    rw [files_of_sent rfl]

/-! ## Stores -/

theorem withStore_spares (d : Desk) (feed : Feed) (store : Store feed.State Observer) :
    Spares d (d.withStore feed store) := by
  cases feed <;> exact .of_same rfl rfl rfl rfl (.of_same rfl rfl)

theorem follow_spares (d : Desk) (feed : Feed)
    (change : Store feed.State Observer × List (Order Nat)) : Spares d (d.follow feed change) :=
  .trans (withStore_spares d feed change.1)
    (.of_same rfl rfl rfl rfl (order_posts (fun _ => rfl) _ _))

theorem runner_spares (d : Desk) (runner : Runner) (orders : List (Order Nat)) :
    Spares d ({ d with runner }.order .question orders) := by
  have begun : Spares d { d with runner } := .of_same rfl rfl rfl rfl (.of_same rfl rfl)
  exact begun.trans (.of_same rfl rfl rfl rfl (order_posts (fun _ => rfl) _ _))

theorem withStore_announcer (d : Desk) (feed : Feed) (store : Store feed.State Observer) :
    (d.withStore feed store).announcer = d.announcer := by
  cases feed <;> rfl

theorem withStore_known (d : Desk) (feed : Feed) {store : Store feed.State Observer}
    (kept : feed = .job → store.snapshot = (d.store feed).snapshot) :
    (d.withStore feed store).jobs.snapshot = d.jobs.snapshot := by
  cases feed with
  | job => exact kept rfl
  | health => rfl

theorem follow_steady (d : Desk) (feed : Feed)
    {change : Store feed.State Observer × List (Order Nat)}
    (kept : change.1.snapshot = (d.store feed).snapshot) : Steady d (d.follow feed change) where
  toSpares := follow_spares d feed change
  announcer := withStore_announcer d feed change.1
  known := withStore_known d feed fun _ => kept

/-! ## Acts -/

/-- Whatever is done at a desk. -/
theorem Act.spares (act : Act part d e) : Spares d e := by
  cases act with
  | notify d notice => exact .of_same rfl rfl rfl rfl (notify_posts d notice)
  | dismiss d id => exact .of_same rfl rfl rfl rfl (dismiss_posts d id)
  | remove taken key => exact .of_same rfl rfl rfl rfl (removal_posts taken key)
  | due taken other =>
    refine .of_same rfl rfl rfl rfl (takeDue_posts taken ?_)
    unfold Duty.removalOf
    split
    · next key => exact absurd key (other _)
    · rfl
    · rfl
  | pass d span => exact .of_same rfl rfl rfl rfl (pass_posts d span)
  | unsubscribe d feed id => exact follow_spares d feed _
  | subscribe d feed observer => exact follow_spares d feed _
  | fire d feed number => exact withStore_spares d feed _
  | startPoll starts => exact withStore_spares d _ _
  | settle d feed source outcome => exact withStore_spares d feed _
  | rearm d feed source snapshot => exact follow_spares d feed _
  | reset d => exact runner_spares d _ _
  | runner d runner orders => exact runner_spares d runner orders
  | call d asks fine => exact call_spares d _ fine
  | forget only => exact (forget_steady d _).toSpares
  | resend only => exact resend_spares only
  | hands opened order artifact rows total =>
    have never {P : Prop} (shut : d.closed = true) : P := by
      rw [opened] at shut
      cases shut
    exact
      { toPosts := .of_same rfl rfl
        closed := id
        batches := fun _ => List.Sublist.refl _
        savings := never
        files := never }
  | filed d ticket =>
    exact
      { toPosts := .of_same rfl rfl
        closed := id
        batches := fun _ => List.Sublist.refl _
        savings := fun _ => List.filter_sublist
        files := fun _ => List.Sublist.refl _ }
  | close d =>
    exact
      { toPosts := .of_same rfl rfl
        closed := fun _ => rfl
        batches := fun _ => List.Sublist.refl _
        savings := fun _ => List.Sublist.refl _
        files := fun _ => List.Sublist.refl _ }
  | handOut d =>
    exact
      { toPosts := .of_same rfl rfl
        closed := id
        batches := fun _ => List.Sublist.refl _
        savings := fun _ => List.Sublist.refl _
        files := fun _ => (List.tail_sublist _).filter _ }
  | _ => exact .of_same rfl rfl rfl rfl (.of_same rfl rfl)

theorem Acts.spares {may : Part → Prop} (acts : Acts may d e) : Spares d e :=
  (acts.mono fun _ _ => trivial).lift .refl .trans trivial fun act _ => act.spares

/-- Only a poll of the job that settles changes what is known of the job. -/
theorem Act.known (act : Act part d e) (foreign : part ≠ .settles .job) :
    e.jobs.snapshot = d.jobs.snapshot := by
  cases act with
  | unsubscribe d feed id =>
    exact withStore_known d feed fun _ => Poller.unsubscribe_snapshot _ _
  | subscribe d feed observer =>
    exact withStore_known d feed fun _ => Poller.subscribe_snapshot _ _
  | fire d feed number => exact withStore_known d feed fun _ => Poller.fire_snapshot _ _
  | @startPoll d feed store starts =>
    refine withStore_known d feed fun _ => ?_
    unfold Store.startPoll at starts
    split at starts
    · cases starts
    · cases starts
      rfl
  | settle d feed source outcome =>
    exact withStore_known d feed fun own => absurd (congrArg Part.settles own) foreign
  | rearm d feed source snapshot =>
    exact withStore_known d feed fun own => absurd (congrArg Part.settles own) foreign
  | _ => rfl

theorem Acts.known (acts : Acts (· ≠ .settles .job) d e) :
    e.jobs.snapshot = d.jobs.snapshot :=
  acts.lift (R := fun d e => e.jobs.snapshot = d.jobs.snapshot) (fun _ => rfl)
    (fun first second => second.trans first) (by simp) Act.known

theorem Act.announcer_eq (act : Act part d e) (foreign : part ≠ .announcer) :
    e.announcer = d.announcer := by
  cases act with
  | announcer d announcer => exact absurd rfl foreign
  | unsubscribe d feed id => exact withStore_announcer d feed _
  | subscribe d feed observer => exact withStore_announcer d feed _
  | fire d feed number => exact withStore_announcer d feed _
  | startPoll starts => exact withStore_announcer d _ _
  | settle d feed source outcome => exact withStore_announcer d feed _
  | rearm d feed source snapshot => exact withStore_announcer d feed _
  | _ => rfl

/-- It is not the business of a poll of the job that settles. -/
def Part.isSteady : Part → Bool
  | .settles .job | .announcer => false
  | _ => true

theorem Act.steady (act : Act part d e) (foreign : part.isSteady = true) : Steady d e where
  toSpares := act.spares
  announcer := act.announcer_eq (by rintro rfl; cases foreign)
  known := act.known (by rintro rfl; cases foreign)

theorem Acts.steady (acts : Acts (·.isSteady = true) d e) : Steady d e :=
  acts.lift .refl .trans rfl Act.steady

/-! ## Whatever happens -/

theorem shutDown_closed (d : Desk) : d.shutDown.closed = true := by
  have ended : Acts (fun _ => True) { d with closed := true, shifts := [] } d.shutDown :=
    foldl_acts (endShift_acts trivial) _ d.shifts
  exact ended.spares.closed rfl

/-- The poll of the job that an event settles, by its ticket, and with which result. -/
def jobPolled (d : Desk) : Event → Option (Nat × Except Fault String)
  | .answer ticket answer =>
    match d.settlement ticket answer with
    | some (.poll .job _, result) => some (ticket, result)
    | _ => none
  | _ => none

theorem step_of_jobPolled {event : Event} {ticket : Nat} {result : Except Fault String}
    (polled : d.jobPolled event = some (ticket, result)) : ∃ caller,
      d.step event = (d.forget ticket).settlePoll .job caller result := by
  unfold jobPolled at polled
  split at polled
  · split at polled
    · next caller _ settled =>
      cases polled
      exact ⟨caller, answer_of_settlement settled⟩
    · cases polled
  · cases polled

theorem isSteady_parts {task : Task} (other : ∀ caller, task ≠ .poll .job caller) :
    ∀ part ∈ task.parts, part.isSteady = true := by
  cases task with
  | poll feed caller =>
    cases feed with
    | job => exact absurd rfl (other caller)
    | health => simp [Task.parts, Part.isSteady]
  | _ => simp [Task.parts, Part.isSteady]

theorem parts_of_unpolled {event : Event} (other : d.jobPolled event = none) :
    ∀ part ∈ d.parts event, part.isSteady = true := by
  intro part own
  cases event with
  | answer ticket answer =>
    rcases mem_answer_parts own with rfl | ⟨task, result, settled, rfl | own⟩
    · rfl
    · rfl
    · refine isSteady_parts ?_ part own
      rintro caller rfl
      dsimp only [jobPolled] at other
      rw [settled] at other
      cases other
  | visit caller request => rcases mem_visit_parts own with rfl | rfl | rfl | ⟨rfl, -⟩ <;> rfl
  | ring =>
    obtain ⟨alarm, agenda, -, rfl⟩ := mem_ring_parts own
    cases alarm.key <;> rfl
  | _ => revert part; simp [parts, Part.isSteady]

/-- Whatever happens that settles no poll of the job. -/
theorem Orderly.step_steady (orderly : Orderly settings d) {event : Event}
    (other : d.jobPolled event = none) : Steady d (d.step event) :=
  Acts.steady ((step_acts orderly.distinct event).mono (parts_of_unpolled other))

theorem Orderly.live_spares (orderly : Orderly settings d) (events : List Event) :
    Spares d (d.live events) := by
  induction events generalizing d with
  | nil => exact .refl d
  | cons event events ih =>
    have first := (step_acts orderly.distinct event).spares
    exact first.trans (ih (orderly.moves (step_moves d event)))

/-- In every life of a desk, its notices with the removals on its agenda are where a run of a board
ends. -/
theorem live_board (settings : Settings) (hooked : Bool) (events : List Event) :
    ∃ part, ((ofSettings settings hooked).live events).board =
      (Board.ofSettings settings.notices).run part :=
  ((ofSettings_orderly settings hooked).live_spares events).part List.Pairwise.nil

end Desk

end Watchdesk
