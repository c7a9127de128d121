import Watchdesk.Proofs.Desk.Polling
import Watchdesk.Proofs.Polling.Observers

/-!
# What has nothing to do with a store

Most of what happens to a desk begins no fetch for a given store, settles none, and does not touch
the poll that the store has on the agenda, unless the last observer of the store goes. This is said
of each act of a desk, and then of every event but those that are for the store itself.
-/

namespace Watchdesk.Desk

/-- The tickets of the fetches for a store that are under way. -/
def fetches (d : Desk) (feed : Feed) : List Nat :=
  (d.calls.filter fun c => c.task.polls feed).map Call.ticket

/-- The polls of a store that are on the agenda. -/
def timers (d : Desk) (feed : Feed) : List (Alarm Nat) :=
  Agenda.share (Duty.pollOf feed) d.agenda.alarms

/-- A change that takes no time, in which observers of a store may go and nothing else happens to
its fetches and timers. -/
structure Idles (feed : Feed) (d e : Desk) : Prop where
  now : e.now = d.now
  fetches : e.fetches feed = d.fetches feed
  sequence : (e.store feed).sequence = (d.store feed).sequence
  observers : (e.store feed).observers.Sublist (d.store feed).observers
  timer : (e.store feed).observers ≠ [] → (e.store feed).timer = (d.store feed).timer
  timers : (e.store feed).observers ≠ [] → e.timers feed = d.timers feed

variable {settings : Settings} {part : Part} {feed other : Feed} {d e f : Desk}

theorem Idles.of_store (store : e.store feed = d.store feed) (now : e.now = d.now)
    (fetches : e.fetches feed = d.fetches feed) (timers : e.timers feed = d.timers feed) :
    Idles feed d e where
  now := now
  fetches := fetches
  sequence := congrArg Store.sequence store
  observers := by rw [store]
  timer := fun _ => congrArg Store.timer store
  timers := fun _ => timers

theorem Idles.of_same (store : e.store feed = d.store feed) (agenda : e.agenda = d.agenda)
    (calls : e.calls = d.calls) : Idles feed d e :=
  .of_store store (congrArg Agenda.now agenda)
    (congrArg (fun calls : List Call => (calls.filter _).map _) calls)
    (congrArg (fun g : Agenda Duty => Agenda.share _ g.alarms) agenda)

theorem Idles.trans (first : Idles feed d e) (second : Idles feed e f) : Idles feed d f where
  now := second.now.trans first.now
  fetches := second.fetches.trans first.fetches
  sequence := second.sequence.trans first.sequence
  observers := second.observers.trans first.observers
  timer := by
    intro present
    have before : (e.store feed).observers ≠ [] := fun empty =>
      present (List.sublist_nil.mp (empty ▸ second.observers))
    exact (second.timer present).trans (first.timer before)
  timers := by
    intro present
    have before : (e.store feed).observers ≠ [] := fun empty =>
      present (List.sublist_nil.mp (empty ▸ second.observers))
    exact (second.timers present).trans (first.timers before)

theorem Idles.refl (d : Desk) : Idles feed d d := .of_same rfl rfl rfl

/-! ## Orders and calls -/

theorem order_idles {κ : Type} {duty : κ → Duty}
    (foreign : ∀ key, Duty.pollOf feed (duty key) = none) (d : Desk) (orders : List (Order κ)) :
    Idles feed d (d.order duty orders) :=
  .of_store (store_of_same rfl rfl feed) (Agenda.obeyAll_now _ _) rfl
    (congrArg Agenda.alarms (Agenda.shareOf_obeyAll_foreign foreign d.agenda orders))

theorem center_idles (d : Desk) (center : Center) (orders : List (Order String)) :
    Idles feed d ({ d with center }.order .removal orders) := by
  refine .trans ?_ (order_idles (fun _ => rfl) _ _)
  exact .of_same (store_of_same rfl rfl feed) rfl rfl

theorem runner_idles (d : Desk) (runner : Runner) (orders : List (Order Nat)) :
    Idles feed d ({ d with runner }.order .question orders) := by
  refine .trans ?_ (order_idles (fun _ => rfl) _ _)
  exact .of_same (store_of_same rfl rfl feed) rfl rfl

/-- Work that is no poll of the store is taken off the agenda. -/
theorem takeDue_idles {alarm : Alarm Duty} {agenda : Agenda Duty}
    (taken : d.agenda.takeDue d.now = some (alarm, agenda))
    (foreign : alarm.key.pollOf feed = none) : Idles feed d { d with agenda } :=
  .of_store (store_of_same rfl rfl feed) (Agenda.takeDue_eq_some taken).2.2 rfl
    (congrArg Agenda.alarms (Agenda.shareOf_takeDue_foreign taken foreign))

theorem withStore_idles (different : other ≠ feed) (d : Desk)
    (store : Store other.State Observer) : Idles feed d (d.withStore other store) :=
  .of_same (store_withStore_of_ne different d store) (withStore_agenda d other store)
    (withStore_calls d other store)

theorem follow_idles (different : other ≠ feed) (d : Desk)
    (change : Store other.State Observer × List (Order Nat)) :
    Idles feed d (d.follow other change) := by
  refine .trans (withStore_idles different d change.1) (order_idles ?_ _ _)
  intro number
  exact if_neg different

theorem follow_store (d : Desk) (feed : Feed)
    (change : Store feed.State Observer × List (Order Nat)) :
    (d.follow feed change).store feed = change.1 := by
  cases feed <;> rfl

/-- The timer of a store stays as long as somebody is left who observes the store. -/
theorem unsubscribe_idles (d : Desk) (other : Feed) (id : Nat) :
    Idles feed d (d.unsubscribe other id) := by
  by_cases same : other = feed
  · subst same
    let store := (d.store other).unsubscribe id
    have left : (d.unsubscribe other id).store other = store.1 := follow_store d other _
    have observers : store.1.observers = (d.store other).observers.filter fun o => o.1 ≠ id :=
      Store.unsubscribe_observers _ id
    -- Orders are given to the agenda only when nobody is left.
    have untouched (present : store.1.observers ≠ []) :
        store.1.timer = (d.store other).timer ∧ store.2 = [] := by
      rw [observers] at present
      unfold store Store.unsubscribe
      dsimp only
      rw [if_neg (by simpa using present)]
      exact ⟨rfl, rfl⟩
    constructor
    · exact Agenda.obeyAll_now _ _ |>.trans (congrArg Agenda.now (withStore_agenda d other _))
    · exact congrArg (fun calls : List Call => (calls.filter _).map _)
        (withStore_calls d other store.1)
    · rw [left]
      unfold store Store.unsubscribe
      dsimp only
      split <;> rfl
    · rw [left, observers]
      exact List.filter_sublist
    · rw [left]
      exact fun present => (untouched present).1
    · rw [left]
      intro present
      have agenda : (d.unsubscribe other id).agenda = d.agenda := by
        show (d.withStore other store.1).agenda.obeyAll (store.2.map _) = _
        rw [(untouched present).2, withStore_agenda]
        rfl
      rw [Desk.timers, agenda, Desk.timers]
  · exact follow_idles same d _

theorem call_idles (d : Desk) (request : Request) {task : Task}
    (foreign : task.polls feed = false) : Idles feed d (d.call request task) := by
  refine .of_store (store_of_same rfl rfl feed) rfl ?_ rfl
  rw [fetches, call, List.filter_append, List.filter_cons_of_neg (by simp [foreign]),
    List.filter_nil, List.append_nil]
  rfl

/-- The only call with a ticket is forgotten. -/
theorem forget_idles {call : Call} (only : d.Only call) (foreign : call.task.polls feed = false) :
    Idles feed d (d.forget call.ticket) := by
  refine .of_store (store_of_same rfl rfl feed) rfl ?_ rfl
  rw [fetches, Desk.forget, List.filter_filter, fetches]
  congr 1
  apply List.filter_congr
  intro c member
  by_cases same : c.ticket = call.ticket
  · rw [only c member same, foreign, Bool.false_and]
  · simp [same]

theorem resend_idles {call : Call} (only : d.Only call) : Idles feed d (d.resend call) := by
  refine .of_store (store_of_same rfl rfl feed) rfl ?_ rfl
  rw [fetches, only.resend_calls, List.filter_map, List.map_map]
  rfl

/-! ## Acts -/

/-- It may do something about the polls of the store. -/
def Part.touches (feed : Feed) : Part → Bool
  | .subscribes own | .polls own | .settles own => own = feed
  | .answered task => task.polls feed
  | .clock => true
  | _ => false

theorem touches_part (feed : Feed) (task : Task) : task.part.touches feed = task.polls feed := by
  cases task <;> rfl

theorem touches_parts {task : Task} (foreign : task.polls feed = false) :
    ∀ part ∈ task.parts, part.touches feed = false := by
  cases task with
  | poll other caller =>
    have different : other ≠ feed := of_decide_eq_false foreign
    cases other <;> simp [Task.parts, Part.touches, different]
  | _ => simp [Task.parts, Part.touches]

theorem Act.idles (act : Act part d e) (foreign : part.touches feed = false) :
    Idles feed d e := by
  cases act with
  | notify d notice => exact center_idles d _ _
  | dismiss d id => exact center_idles d _ _
  | unsubscribe d own id => exact unsubscribe_idles d own id
  | subscribe d own observer => exact follow_idles (of_decide_eq_false foreign) d _
  | fire d own number => exact withStore_idles (of_decide_eq_false foreign) d _
  | startPoll starts => exact withStore_idles (of_decide_eq_false foreign) d _
  | settle d own source outcome => exact withStore_idles (of_decide_eq_false foreign) d _
  | rearm d own source snapshot => exact follow_idles (of_decide_eq_false foreign) d _
  | reset d => exact runner_idles d _ _
  | runner d runner orders => exact runner_idles d runner orders
  | @call d request task asks fine => exact call_idles d request (touches_part feed task ▸ foreign)
  | @due d alarm agenda taken other =>
    refine takeDue_idles taken ?_
    cases key : alarm.key with
    | poll own number =>
      rw [key] at foreign
      exact if_neg (of_decide_eq_false foreign)
    | question epoch => rfl
    | removal notice => rfl
  | @remove d alarm agenda notice taken key =>
    refine (takeDue_idles taken ?_).trans (center_idles _ _ _)
    rw [key]
    rfl
  | forget only => exact forget_idles only foreign
  | resend only => exact resend_idles only
  | pass d span => cases foreign
  | _ => exact .of_same (store_of_same rfl rfl feed) rfl rfl

theorem Acts.idles (acts : Acts (·.touches feed = false) d e) : Idles feed d e :=
  acts.lift .refl .trans rfl Act.idles

@[simp] theorem withStore_shifts (d : Desk) (feed : Feed) (store : Store feed.State Observer) :
    (d.withStore feed store).shifts = d.shifts := by
  cases feed <;> rfl

theorem Act.shifts_eq (act : Act part d e) (foreign : part ≠ .shifts) : e.shifts = d.shifts := by
  cases act with
  | unsubscribe d feed id => exact withStore_shifts d feed _
  | subscribe d feed observer => exact withStore_shifts d feed _
  | fire d feed number => exact withStore_shifts d feed _
  | startPoll starts => exact withStore_shifts d _ _
  | settle d feed source outcome => exact withStore_shifts d feed _
  | rearm d feed source snapshot => exact withStore_shifts d feed _
  | shift d shift => exact absurd rfl foreign
  | close d => exact absurd rfl foreign
  | _ => rfl

theorem Acts.shifts_eq (acts : Acts (· ≠ .shifts) d e) : e.shifts = d.shifts :=
  acts.lift (R := fun d e => e.shifts = d.shifts) (fun _ => rfl)
    (fun first second => second.trans first) (by simp) Act.shifts_eq

theorem shutDown_shifts (d : Desk) : d.shutDown.shifts = [] := by
  have ended : Acts (· ≠ .shifts) { d with closed := true, shifts := [] } d.shutDown :=
    foldl_acts (endShift_acts (by simp)) _ d.shifts
  exact ended.shifts_eq

/-! ## Whatever happens -/

/-- The event may do something about the polls of a store: it has the store observed or polled, or
it settles a fetch for the store, or time passes, or somebody begins or ends a shift. -/
def Concerns (d : Desk) (feed : Feed) : Event → Prop
  | .subscribe other _ | .watch _ other _ | .poll other _ => other = feed
  | .serve _ _ | .shutDown | .pass _ => True
  | .ring => ∃ alarm agenda, d.agenda.takeDue d.now = some (alarm, agenda) ∧
      alarm.key.pollOf feed ≠ none
  | .answer ticket answer => ∃ task result, d.settlement ticket answer = some (task, result) ∧
      task.polls feed = true
  | .unsubscribe _ _ | .unwatch _ | .run _ _ _ _ | .reset | .notify _ | .dismiss _
  | .guestObserves _ | .requestExport _ | .visit _ _ | .resume | .settleSaving _ _ | .handOut
  | .hear => False

/-- An event that does not concern a store does not touch its polls. -/
theorem parts_of_unconcerned {event : Event} (foreign : ¬ d.Concerns feed event) :
    ∀ part ∈ d.parts event, part.touches feed = false := by
  intro part own
  cases event with
  | subscribe other observer =>
    obtain rfl := List.mem_singleton.mp own
    exact decide_eq_false foreign
  | watch number other leaves =>
    obtain rfl := List.mem_singleton.mp own
    exact decide_eq_false foreign
  | poll other caller =>
    obtain rfl := List.mem_singleton.mp own
    exact decide_eq_false foreign
  | serve caller taken => exact absurd trivial foreign
  | shutDown => exact absurd trivial foreign
  | pass span => exact absurd trivial foreign
  | visit caller request => rcases mem_visit_parts own with rfl | rfl | rfl | ⟨rfl, -⟩ <;> rfl
  | ring =>
    obtain ⟨alarm, agenda, taken, rfl⟩ := mem_ring_parts own
    cases key : alarm.key with
    | poll other number =>
      refine decide_eq_false ?_
      rintro rfl
      exact foreign ⟨alarm, agenda, taken, by simp [key, Duty.pollOf]⟩
    | question epoch => rfl
    | removal notice => rfl
  | answer ticket answer =>
    rcases mem_answer_parts own with rfl | ⟨task, result, settled, own⟩
    · rfl
    · have other : task.polls feed = false := by
        cases own : task.polls feed with
        | false => rfl
        | true => exact absurd ⟨task, result, settled, own⟩ foreign
      rcases own with rfl | own
      · exact other
      · exact touches_parts other part own
  | _ => revert part; simp [parts, Part.touches]

theorem Orderly.step_idles (orderly : Orderly settings d) {event : Event}
    (foreign : ¬ d.Concerns feed event) : Idles feed d (d.step event) :=
  Acts.idles ((step_acts orderly.distinct event).mono (parts_of_unconcerned foreign))

/-- Shifts begin and end with those who serve and when the desk is closed. -/
theorem Orderly.step_shifts (orderly : Orderly settings d) {event : Event}
    (ordinary : ∀ caller taken, event ≠ .serve caller taken) (goesOn : event ≠ .shutDown) :
    (d.step event).shifts = d.shifts := by
  refine Acts.shifts_eq ((step_acts orderly.distinct event).mono fun part own => ?_)
  cases event with
  | serve caller taken => exact absurd rfl (ordinary caller taken)
  | shutDown => exact absurd rfl goesOn
  | visit caller request =>
    rcases mem_visit_parts own with rfl | rfl | rfl | ⟨rfl, -⟩ <;> simp
  | ring =>
    obtain ⟨alarm, agenda, -, rfl⟩ := mem_ring_parts own
    cases alarm.key <;> simp [Duty.part]
  | answer ticket answer =>
    rcases mem_answer_parts own with rfl | ⟨task, result, -, rfl | own⟩
    · simp
    · simp
    · rintro rfl
      cases task with
      | poll feed caller => cases feed <;> simp [Task.parts] at own
      | _ => simp [Task.parts] at own
  | _ => revert part; simp [parts]

end Watchdesk.Desk
