import Watchdesk.Proofs.Desk.Performing
import Mathlib.Data.List.Nodup

/-!
# The acts of a desk

All that a desk does is made of small acts, and each act is the business of one part of it: of the
polls of a store, of the runner, of exports, or of nobody in particular. Here every function of a
desk is taken apart into its acts, once. What is to be shown of all functions and events that are no
business of some parts is shown of the acts of the others.
-/

namespace Watchdesk

/-- The task takes a batch of an export. -/
def Task.isBatch : Task → Bool
  | .batch _ _ => true
  | .poll _ _ | .start _ _ _ | .question _ | .probe _ => false

/-- The request starts a job. -/
def Request.isTrigger : Request → Bool
  | .post _ _ => true
  | .get _ => false

/-- An operator at the desk is told what became of an export. -/
def Report.isExported : Report → Bool
  | .exported _ _ => true
  | .seen _ _ | .polled _ _ | .started _ _ | .succeeded _ | .served _ _ | .answered _ _ => false

namespace Desk

/-- Whose business an act of a desk is. -/
inductive Part where
  /-- Nobody's in particular: notices, watches, observers who go, and most of what is told. -/
  | common
  | announcer
  /-- Somebody comes to observe a store. -/
  | subscribes (feed : Feed)
  | polls (feed : Feed)
  | settles (feed : Feed)
  | resets
  /-- The runner begins a job or follows it. -/
  | follows
  /-- A request starts a job. -/
  | starts
  | exports
  /-- The file of an export is done with. -/
  | files
  /-- A call is done with. -/
  | answered (task : Task)
  /-- A call pauses, or its request is sent again. -/
  | again
  /-- The time of a notice is over. -/
  | removals
  /-- Somebody begins to serve, or all who serve end. -/
  | shifts
  | clock
  | handOut

end Desk

open Desk (Part)

/-- Whose business a call is. -/
def Task.part : Task → Part
  | .poll feed _ => .polls feed
  | .start _ _ _ => .starts
  | .question _ => .follows
  | .probe _ | .batch _ _ => .exports

/-- Whose business it is that a call is settled. -/
def Task.parts : Task → List Part
  | .poll .job _ => [.settles .job, .announcer]
  | .poll .health _ => [.settles .health]
  | .start _ _ _ | .question _ => [.follows]
  | .probe _ | .batch _ _ => [.exports]

/-- Whose business work on the agenda is. -/
def Duty.part : Duty → Part
  | .poll feed _ => .polls feed
  | .question _ => .follows
  | .removal _ => .removals

/-- Whose business it is that a wish is granted. -/
def Wish.parts : Wish → List Part
  | .reset => [.resets]
  | .start _ => [.follows, .starts]
  | .export _ _ _ _ => [.exports]
  | .alive | .job | .health | .runner | .notices | .dismiss _ | .progress => []

namespace Desk

/-- No other call that is under way has the ticket of the call. -/
def Only (d : Desk) (call : Call) : Prop := ∀ c ∈ d.calls, c.ticket = call.ticket → c = call

/-- The acts of a desk, and whose business they are. -/
inductive Act : Part → Desk → Desk → Prop where
  | tell (d : Desk) {report : Report} (other : report.isExported = false) :
      Act .common d (d.tell report)
  | hear (d : Desk) : Act .common d { d with reports := [] }
  | notify (d : Desk) (notice : NewNotice) : Act .common d (d.notify notice)
  | dismiss (d : Desk) (id : String) : Act .common d (d.dismiss id).2
  | guest (d : Desk) (guest : Announcer) : Act .common d { d with guest }
  | watches (d : Desk) (watches : List Watch) : Act .common d { d with watches }
  | unsubscribe (d : Desk) (feed : Feed) (id : Nat) : Act .common d (d.unsubscribe feed id)
  | announcer (d : Desk) (announcer : Announcer) : Act .announcer d { d with announcer }
  | subscribe (d : Desk) (feed : Feed) (observer : Observer) :
      Act (.subscribes feed) d (d.subscribe feed observer).2
  | fire (d : Desk) (feed : Feed) (number : Nat) :
      Act (.polls feed) d (d.withStore feed ((d.store feed).fire number))
  | startPoll {d : Desk} {feed : Feed} {store : Store feed.State Observer}
      (starts : (d.store feed).startPoll = some store) :
      Act (.polls feed) d (d.withStore feed store)
  | settle (d : Desk) (feed : Feed) (source : Source feed.State)
      (outcome : Except Fault feed.State) :
      Act (.settles feed) d (d.withStore feed ((d.store feed).settle source outcome))
  | rearm (d : Desk) (feed : Feed) (source : Source feed.State) (snapshot : feed.State) :
      Act (.settles feed) d (d.follow feed ((d.store feed).rearm source snapshot))
  | reset (d : Desk) : Act .resets d d.reset
  | runner (d : Desk) (runner : Runner) (orders : List (Order Nat)) :
      Act .follows d ({ d with runner }.order .question orders)
  /-- Only the start of a job sends a trigger, and a closed desk asks for no batch. -/
  | call (d : Desk) {request : Request} {task : Task}
      (asks : task.part ≠ .starts → request.isTrigger = false)
      (fine : d.closed = true → task.isBatch = false) : Act task.part d (d.call request task)
  /-- Work on the agenda is due that removes no notice. -/
  | due {d : Desk} {alarm : Alarm Duty} {agenda : Agenda Duty}
      (taken : d.agenda.takeDue d.now = some (alarm, agenda))
      (other : ∀ notice, alarm.key ≠ .removal notice) : Act alarm.key.part d { d with agenda }
  | remove {d : Desk} {alarm : Alarm Duty} {agenda : Agenda Duty} {notice : String}
      (taken : d.agenda.takeDue d.now = some (alarm, agenda)) (key : alarm.key = .removal notice) :
      Act .removals d ({ d with agenda }.dismiss notice).2
  | exporting (d : Desk) (exporting : Bool) (progress : Option Export.Progress) :
      Act .exports d { d with exporting, progress }
  | told (d : Desk) (report : Report) : Act .exports d (d.tell report)
  /-- A closed desk hands out no file. -/
  | hands {d : Desk} (opened : d.closed = false) (order : ExportOrder)
      (artifact : Export.Artifact) (rows total : Nat) :
      Act .exports d (d.goOn order (.hands artifact rows total))
  | filed (d : Desk) (ticket : Nat) :
      Act .files d { d with savings := d.savings.filter fun s => s.ticket ≠ ticket }
  | forget {d : Desk} {call : Call} (only : d.Only call) :
      Act (.answered call.task) d (d.forget call.ticket)
  | resend {d : Desk} {call : Call} (only : d.Only call) : Act .again d (d.resend call)
  | pauses (d : Desk) (pauses : List (Alarm Nat)) : Act .again d { d with pauses }
  | shift (d : Desk) (shift : Shift) : Act .shifts d { d with shifts := d.shifts ++ [shift] }
  | close (d : Desk) : Act .shifts d { d with closed := true, shifts := [] }
  | pass (d : Desk) (span : Nat) :
      Act .clock d { d with agenda := { d.agenda with now := d.agenda.now + span } }
  | handOut (d : Desk) : Act .handOut d { d with outbox := d.outbox.tail }

/-- Acts one after another, all of them nobody's business in particular or that of some parts. -/
inductive Acts (may : Part → Prop) : Desk → Desk → Prop where
  | refl (d : Desk) : Acts may d d
  | trans {d e f : Desk} : Acts may d e → Acts may e f → Acts may d f
  | common {d e : Desk} : Act .common d e → Acts may d e
  | act {part : Part} {d e : Desk} : Act part d e → may part → Acts may d e

variable {may : Part → Prop} {d e : Desk}

theorem Acts.mono {more : Part → Prop} (acts : Acts may d e) (sub : ∀ part, may part → more part) :
    Acts more d e := by
  induction acts with
  | refl d => exact .refl d
  | trans _ _ first second => exact .trans first second
  | common act => exact .common act
  | act act allowed => exact .act act (sub _ allowed)

/-- What holds of single acts, and goes on from one change of a desk to the next, holds of all that
is made of such acts. -/
theorem Acts.lift {R : Desk → Desk → Prop} (acts : Acts may d e) (refl : ∀ d, R d d)
    (trans : ∀ {d e f}, R d e → R e f → R d f) (common : may .common)
    (own : ∀ {part d e}, Act part d e → may part → R d e) : R d e := by
  induction acts with
  | refl d => exact refl d
  | trans _ _ first second => exact trans first second
  | common act => exact own act common
  | act act allowed => exact own act allowed

theorem foldl_acts {α : Type} {f : Desk → α → Desk} (acts : ∀ d x, Acts may d (f d x)) (d : Desk)
    (xs : List α) : Acts may d (xs.foldl f d) := by
  induction xs generalizing d with
  | nil => exact .refl d
  | cons x xs ih => exact .trans (acts d x) (ih (f d x))

/-! ## Notices and watches -/

theorem notifyAll_acts (d : Desk) (notices : List NewNotice) :
    Acts may d (d.notifyAll notices) :=
  foldl_acts (fun d notice => .common (.notify d notice)) d notices

theorem unwatch_acts (d : Desk) (number : Nat) : Acts may d (d.unwatch number) := by
  unfold unwatch
  split
  · exact .refl d
  · exact .trans (.common (.watches d _)) (.common (.unsubscribe _ _ _))

theorem announce_acts (d : Desk) (announcer : Announcer) (snapshot : Snapshot) :
    Acts may d (d.announce announcer snapshot).2.2 := by
  unfold announce
  split
  · exact .refl d
  · split
    · exact .refl d
    · exact .common (.notify d _)

theorem guestObserves_acts (d : Desk) (snapshot : Snapshot) :
    Acts may d (d.guestObserves snapshot).2 :=
  .trans (announce_acts d d.guest snapshot) (.common (.guest _ _))

theorem deliver_acts_of_other (d : Desk) (snapshot : Snapshot) {observer : Observer}
    (other : observer ≠ .announcer) : Acts may d (d.deliver snapshot observer) := by
  cases observer with
  | keeper => exact .refl d
  | announcer => exact absurd rfl other
  | guest => exact guestObserves_acts d snapshot
  | watch number leaves =>
    exact .trans (.common (.tell d rfl)) (foldl_acts unwatch_acts _ leaves)

/-- The announcer has nothing to do with the backend's health. -/
theorem deliver_acts {snapshot : Snapshot}
    (announces : ∀ s, snapshot = .job s → may .announcer) (d : Desk) (observer : Observer) :
    Acts may d (d.deliver snapshot observer) := by
  by_cases own : observer = .announcer
  · subst own
    cases snapshot with
    | health s => exact .refl d
    | job s =>
      exact .trans (announce_acts d d.announcer (.job s)) (.act (.announcer _ _) (announces s rfl))
  · exact deliver_acts_of_other d snapshot own

theorem deliverAll_acts {snapshot : Snapshot}
    (announces : ∀ s, snapshot = .job s → may .announcer) (d : Desk)
    (observers : List (Nat × Observer)) : Acts may d (d.deliverAll snapshot observers) := by
  unfold deliverAll
  exact foldl_acts (fun d o => deliver_acts announces d o.2) d observers

/-! ## Polls -/

theorem tellPolled_acts (d : Desk) (caller : Option Caller) (feed : Feed) :
    Acts may d (d.tellPolled caller feed) := by
  cases caller with
  | none => exact .refl d
  | some caller => exact .common (.tell d rfl)

theorem poll_acts {feed : Feed} (polls : may (.polls feed)) (d : Desk) (caller : Option Caller) :
    Acts may d (d.poll feed caller) := by
  unfold Desk.poll
  split
  · exact tellPolled_acts d caller feed
  · next started =>
    exact .trans (.act (.startPoll started) polls)
      (.act (.call _ (fun _ => rfl) fun _ => rfl) polls)

theorem settlePoll_acts {feed : Feed} (settles : may (.settles feed))
    (announces : feed = .job → may .announcer) (d : Desk) (caller : Option Caller)
    (result : Except Fault String) : Acts may d (d.settlePoll feed caller result) := by
  refine .trans ?_ (tellPolled_acts _ caller feed)
  unfold settleStore
  refine .trans (.act (.settle d feed _ _) settles) (.trans (deliverAll_acts ?_ _ _)
    (.act (.rearm _ feed _ _) settles))
  intro s same
  cases feed with
  | job => exact announces rfl
  | health => cases same

/-! ## The runner -/

theorem tellStarted_acts (d : Desk) (caller : Caller) : Acts may d (d.tellStarted caller) := by
  cases caller <;> exact .common (.tell d rfl)

theorem tellRefused_acts (d : Desk) (caller : Caller) : Acts may d (d.tellRefused caller) := by
  cases caller <;> exact .common (.tell d rfl)

theorem settleStart_acts (follows : may .follows) (d : Desk) (epoch : Nat) (caller : Caller)
    (result : Except Fault Unit) : Acts may d (d.settleStart epoch caller result) :=
  .trans (.act (.runner d _ _) follows) (tellStarted_acts _ caller)

theorem run_acts (follows : may .follows) (starts : may .starts) (d : Desk) (caller : Caller)
    (jobId message : String) (starter : Starter) :
    Acts may d (d.run caller jobId message starter) := by
  unfold Desk.run
  split
  · exact tellRefused_acts d caller
  · next runner orders _ =>
    refine .trans (.act (.runner d runner orders) follows) ?_
    cases starter with
    | done result => exact settleStart_acts follows _ _ caller result
    | request request => exact .act (.call _ (absurd rfl) fun _ => rfl) starts
    | kind kind => exact .act (.call _ (absurd rfl) fun _ => rfl) starts

theorem question_acts (follows : may .follows) (d : Desk) (epoch : Nat) :
    Acts may d (d.question epoch) := by
  unfold Desk.question
  split
  · exact .refl d
  · next runner _ =>
    exact .trans (.act (.runner d runner []) follows)
      (.act (.call _ (fun _ => rfl) fun _ => rfl) follows)

theorem settleQuestion_acts (follows : may .follows) (d : Desk) (epoch : Nat)
    (result : Except Fault String) : Acts may d (d.settleQuestion epoch result) := by
  unfold Desk.settleQuestion
  dsimp only
  split
  · exact .trans (.act (.runner d _ _) follows) (.common (.tell _ rfl))
  · exact .act (.runner d _ _) follows

/-! ## Shifts and the agenda -/

theorem unobserve_acts (d : Desk) (jobObserver healthObserver : Nat) :
    Acts may d (d.unobserve jobObserver healthObserver) :=
  .trans (.common (.unsubscribe d _ _)) (.common (.unsubscribe _ _ _))

theorem endShift_acts (resets : may .resets) (d : Desk) (shift : Shift) :
    Acts may d (d.endShift shift) :=
  .trans (unobserve_acts d _ _) (.trans (.act (.reset _) resets) (.common (.tell _ rfl)))

theorem serve_acts (subscribes : ∀ feed, may (.subscribes feed)) (resets : may .resets)
    (shifts : may .shifts) (d : Desk) (caller : Caller) (taken : Option Nat) :
    Acts may d (d.serve caller taken) := by
  have observed : Acts may d d.observe.2.2 :=
    .trans (.act (.subscribe d _ _) (subscribes _)) (.act (.subscribe _ _ _) (subscribes _))
  refine .trans observed ?_
  unfold serve
  dsimp only
  split
  · exact .trans (unobserve_acts _ _ _) (.common (.tell _ rfl))
  · split
    · exact endShift_acts resets _ _
    · exact .act (.shift _ _) shifts

theorem shutDown_acts (resets : may .resets) (shifts : may .shifts) (d : Desk) :
    Acts may d d.shutDown :=
  .trans (.act (.close d) shifts) (foldl_acts (endShift_acts resets) _ _)

theorem ringNext_acts (rings : ∀ alarm agenda, d.agenda.takeDue d.now = some (alarm, agenda) →
    may alarm.key.part) : Acts may d d.ringNext := by
  unfold ringNext
  cases taken : d.agenda.takeDue d.now with
  | none => exact .refl d
  | some first =>
    obtain ⟨alarm, agenda⟩ := first
    have allowed := rings alarm agenda taken
    dsimp only
    cases key : alarm.key with
    | poll feed number =>
      rw [key] at allowed
      refine .trans (.act (.due taken (by simp [key])) (by rwa [key])) ?_
      exact .trans (.act (.fire _ feed number) allowed) (poll_acts allowed _ none)
    | question epoch =>
      rw [key] at allowed
      refine .trans (.act (.due taken (by simp [key])) (by rwa [key])) ?_
      exact question_acts allowed _ epoch
    | removal notice => exact .act (.remove taken key) (by rwa [key] at allowed)

/-! ## Exports -/

theorem goOn_acts (exports : may .exports) (order : ExportOrder) {next : Export.Next}
    (fine : d.closed = true → next.isFurther = false) : Acts may d (d.goOn order next) := by
  cases next with
  | asks url quest =>
    cases quest with
    | total => exact .act (.call d (fun _ => rfl) fun _ => rfl) exports
    | batch run =>
      refine .act (.call d (fun _ => rfl) fun shut => ?_) exports
      cases fine shut
  | hands artifact rows total =>
    cases shut : d.closed with
    | false => exact .act (.hands shut order artifact rows total) exports
    | true => cases fine shut
  | returns result =>
    refine .trans (notifyAll_acts d (Export.farewell result)) ?_
    exact .trans (.act (.exporting _ false none) exports) (.act (.told _ _) exports)

theorem perform_acts (exports : may .exports) (order : ExportOrder) {move : Export.Move}
    (fine : d.closed = true → move.next.isFurther = false) :
    Acts may d (d.perform order (.moves move)) := by
  have shows (d : Desk) (p : Export.Progress) : Acts may d (d.showProgress p) :=
    .act (.exporting d d.exporting (some p)) exports
  refine .trans (foldl_acts shows d move.shown) (goOn_acts exports order ?_)
  rw [foldl_showProgress_closed]
  exact fine

theorem requestExport_acts (exports : may .exports) (d : Desk) (order : ExportOrder) :
    Acts may d (d.requestExport order) := by
  cases exporting : d.exporting with
  | true =>
    rw [requestExport_eq_tell exporting]
    exact .act (.told d _) exports
  | false =>
    rw [requestExport_of_idle d order exporting]
    have asked := Export.Next.isFurther_query_total d.settings order 1 0
    unfold Clerk.opening
    generalize Export.Next.query d.settings order 1 0 .total = next at asked ⊢
    exact .trans (.act (.exporting d true d.progress) exports)
      (perform_acts exports order fun _ => asked)

theorem settleSaving_acts (files : may .files) (exports : may .exports) (d : Desk) (ticket : Nat)
    (saved : Except Fault String) : Acts may d (d.settleSaving ticket saved) := by
  cases found : d.savings.find? fun s => s.ticket == ticket with
  | none =>
    unfold settleSaving
    rw [found]
    exact .refl d
  | some s =>
    rw [d.settleSaving_eq saved found]
    exact .trans (.act (.filed d ticket) files) (perform_acts exports s.order fun _ => rfl)

/-! ## Calls -/

theorem settle_acts {task : Task} (allowed : ∀ part ∈ task.parts, may part) (d : Desk)
    (result : Except Fault String) : Acts may d (d.settle task result) := by
  -- Whatever an export has asked, its answer brings it no further at a closed desk.
  have moves (order : ExportOrder) (quest : Export.Quest) (own : task = quest.task order)
      (exports : may .exports) : Acts may d (d.settle task result) := by
    rw [own, settle_quest]
    refine perform_acts exports order fun shut => ?_
    rw [shut]
    exact quest.isFurther_move_closed d.settings order result
  cases task with
  | poll feed caller =>
    cases feed with
    | job =>
      exact settlePoll_acts (allowed _ (by simp [Task.parts]))
        (fun _ => allowed _ (by simp [Task.parts])) d caller result
    | health =>
      exact settlePoll_acts (allowed _ (by simp [Task.parts])) (by simp) d caller result
  | start epoch caller anyReply =>
    exact settleStart_acts (allowed _ (by simp [Task.parts])) d epoch caller _
  | question epoch => exact settleQuestion_acts (allowed _ (by simp [Task.parts])) d epoch result
  | probe order => exact moves order .total rfl (allowed _ (by simp [Task.parts]))
  | batch order run => exact moves order (.batch run) rfl (allowed _ (by simp [Task.parts]))

/-- The task that an answer settles, and with which result. An answer after which the request is
sent again settles nothing. -/
def settlement (d : Desk) (ticket : Nat) (answer : Except Fault Reply) :
    Option (Task × Except Fault String) :=
  match d.calls.find? fun c => c.ticket == ticket with
  | none => none
  | some call =>
    match call.request with
    | .post _ _ => some (call.task, triggerResult call.task answer)
    | .get _ =>
      match Retry.judge d.settings.backend call.attempts answer with
      | .settled result => some (call.task, result)
      | .again _ => none

/-- An answer settles a task, or lets a call pause, or comes to nothing. -/
theorem answer_cases (d : Desk) (ticket : Nat) (answer : Except Fault Reply) :
    match d.settlement ticket answer with
    | some (task, result) => d.answer ticket answer = (d.forget ticket).settle task result
    | none => d.answer ticket answer = d ∨
        ∃ call ∈ d.calls, ∃ span, d.answer ticket answer = d.pause call span := by
  unfold settlement Desk.answer
  cases found : d.calls.find? fun c => c.ticket == ticket with
  | none => exact .inl rfl
  | some call =>
    have pending : call ∈ d.calls := List.mem_of_find?_eq_some found
    dsimp only
    cases call.request with
    | post url body => rfl
    | get url =>
      dsimp only
      cases Retry.judge d.settings.backend call.attempts answer with
      | settled result => rfl
      | again span => exact .inr ⟨call, pending, span, rfl⟩

theorem answer_of_settlement {ticket : Nat} {answer : Except Fault Reply} {task : Task}
    {result : Except Fault String} (settled : d.settlement ticket answer = some (task, result)) :
    d.answer ticket answer = (d.forget ticket).settle task result := by
  have cases := answer_cases d ticket answer
  rw [settled] at cases
  exact cases

/-- A settlement is that of a call under way. -/
theorem pending_of_settlement {ticket : Nat} {answer : Except Fault Reply} {task : Task}
    {result : Except Fault String} (settled : d.settlement ticket answer = some (task, result)) :
    ∃ call ∈ d.calls, call.ticket = ticket ∧ call.task = task := by
  unfold settlement at settled
  cases found : d.calls.find? fun c => c.ticket == ticket with
  | none =>
    rw [found] at settled
    cases settled
  | some call =>
    rw [found] at settled
    have own : call.ticket = ticket := by simpa using List.find?_some found
    refine ⟨call, List.mem_of_find?_eq_some found, own, ?_⟩
    dsimp only at settled
    split at settled
    · exact congrArg Prod.fst (Option.some.inj settled)
    · split at settled
      · exact congrArg Prod.fst (Option.some.inj settled)
      · cases settled

section Distinct

variable (distinct : (d.calls.map Call.ticket).Nodup)
include distinct

theorem only_of_distinct {call : Call} (pending : call ∈ d.calls) : d.Only call :=
  fun _ member same => List.inj_on_of_nodup_map distinct member pending same

theorem answer_acts {ticket : Nat} {answer : Except Fault Reply}
    (settles : ∀ task result, d.settlement ticket answer = some (task, result) →
      may (.answered task) ∧ ∀ part ∈ task.parts, may part)
    (again : d.settlement ticket answer = none → may .again) :
    Acts may d (d.answer ticket answer) := by
  cases settled : d.settlement ticket answer with
  | none =>
    have allowed := again settled
    have cases := answer_cases d ticket answer
    rw [settled] at cases
    rcases cases with same | ⟨call, pending, span, paused⟩
    · rw [same]
      exact .refl d
    · rw [paused]
      unfold Desk.pause
      split
      · exact .act (.resend (only_of_distinct distinct pending)) allowed
      · exact .act (.pauses d _) allowed
  | some settlement =>
    obtain ⟨task, result⟩ := settlement
    obtain ⟨call, pending, rfl, rfl⟩ := pending_of_settlement settled
    obtain ⟨answered, allowed⟩ := settles _ _ settled
    rw [answer_of_settlement settled]
    exact .trans (.act (.forget (only_of_distinct distinct pending)) answered)
      (settle_acts allowed _ result)

theorem resumeNext_acts (again : may .again) : Acts may d d.resumeNext := by
  unfold resumeNext
  split
  · exact .refl d
  · split
    · next pause pauses _ _ =>
      refine .trans (.act (.pauses d pauses) again) ?_
      unfold Desk.resume
      split
      · exact .refl _
      · next call found =>
        exact .act (.resend (only_of_distinct distinct (List.mem_of_find?_eq_some found))) again
    · exact .refl d

end Distinct

/-! ## Whatever happens -/

theorem grant_acts {wish : Wish} (allowed : ∀ part ∈ wish.parts, may part) (d : Desk)
    (caller : Caller) (finish : Response → Response) : Acts may d (d.grant caller finish wish) := by
  cases wish with
  | alive => exact .common (.tell d rfl)
  | job => exact .common (.tell d rfl)
  | health => exact .common (.tell d rfl)
  | runner => exact .common (.tell d rfl)
  | reset =>
    exact .trans (.act (.reset d) (allowed _ (by simp [Wish.parts]))) (.common (.tell _ rfl))
  | start kind =>
    exact run_acts (allowed _ (by simp [Wish.parts])) (allowed _ (by simp [Wish.parts])) d caller
      kind.jobId kind.startMessage (.kind kind)
  | notices => exact .common (.tell d rfl)
  | dismiss id => exact .trans (.common (.dismiss d id)) (.common (.tell _ rfl))
  | progress => exact .common (.tell d rfl)
  | «export» listing date search confirm =>
    exact requestExport_acts (allowed _ (by simp [Wish.parts])) d _

theorem visit_acts {request : InterfaceRequest}
    (allowed : ∀ wish, request.wish = .ok wish → ∀ part ∈ wish.parts, may part) (d : Desk)
    (caller : Caller) : Acts may d (d.visit caller request) := by
  unfold visit
  dsimp only
  cases granted : request.wish with
  | error response => exact .common (.tell d rfl)
  | ok wish => exact grant_acts (allowed wish granted) d caller _

/-- Whose business an event is. -/
def parts (d : Desk) : Event → List Part
  | .subscribe feed _ | .watch _ feed _ => [.subscribes feed]
  | .poll feed _ => [.polls feed]
  | .run _ _ _ _ => [.follows, .starts]
  | .reset => [.resets]
  | .requestExport _ => [.exports]
  | .serve _ _ => [.subscribes .job, .subscribes .health, .resets, .shifts]
  | .shutDown => [.resets, .shifts]
  | .visit _ request =>
    match request.wish with
    | .ok wish => wish.parts
    | .error _ => []
  | .pass _ => [.clock]
  | .ring =>
    match d.agenda.takeDue d.now with
    | some (alarm, _) => [alarm.key.part]
    | none => []
  | .resume => [.again]
  | .answer ticket answer =>
    match d.settlement ticket answer with
    | some (task, _) => .answered task :: task.parts
    | none => [.again]
  | .settleSaving _ _ => [.files, .exports]
  | .handOut => [.handOut]
  | .unsubscribe _ _ | .unwatch _ | .notify _ | .dismiss _ | .guestObserves _ | .hear => []

theorem mem_visit_parts {caller : Caller} {request : InterfaceRequest} {part : Part}
    (own : part ∈ d.parts (.visit caller request)) :
    part = .resets ∨ part = .follows ∨ part = .starts ∨
      part = .exports ∧ ∃ listing date search confirm,
        request.wish = .ok (.export listing date search confirm) := by
  dsimp only [parts] at own
  cases granted : request.wish with
  | error response => simp [granted] at own
  | ok wish =>
    rw [granted] at own
    cases wish <;> simp_all [Wish.parts]

theorem mem_ring_parts {part : Part} (own : part ∈ d.parts .ring) :
    ∃ alarm agenda, d.agenda.takeDue d.now = some (alarm, agenda) ∧ part = alarm.key.part := by
  dsimp only [parts] at own
  cases taken : d.agenda.takeDue d.now with
  | none => simp [taken] at own
  | some first =>
    rw [taken] at own
    exact ⟨first.1, first.2, rfl, List.mem_singleton.mp own⟩

theorem mem_answer_parts {ticket : Nat} {answer : Except Fault Reply} {part : Part}
    (own : part ∈ d.parts (.answer ticket answer)) :
    part = .again ∨ ∃ task result, d.settlement ticket answer = some (task, result) ∧
      (part = .answered task ∨ part ∈ task.parts) := by
  dsimp only [parts] at own
  cases settled : d.settlement ticket answer with
  | none =>
    rw [settled] at own
    exact .inl (List.mem_singleton.mp own)
  | some settlement =>
    rw [settled] at own
    exact .inr ⟨settlement.1, settlement.2, rfl, List.mem_cons.mp own⟩

/-- All that an event does is the business of its parts. -/
theorem step_acts (distinct : (d.calls.map Call.ticket).Nodup) (event : Event) :
    Acts (· ∈ d.parts event) d (d.step event) := by
  cases event with
  | subscribe feed observer => exact .act (.subscribe d feed observer) (List.mem_singleton_self _)
  | unsubscribe feed id => exact .common (.unsubscribe d feed id)
  | watch number feed leaves =>
    exact .trans (.act (.subscribe d feed _) (List.mem_singleton_self _))
      (.common (.watches _ _))
  | unwatch number => exact unwatch_acts d number
  | poll feed caller => exact poll_acts (List.mem_singleton_self _) d caller
  | run caller jobId message starter =>
    exact run_acts (by simp [parts]) (by simp [parts]) d caller jobId message starter
  | reset => exact .act (.reset d) (List.mem_singleton_self _)
  | notify notice => exact .common (.notify d notice)
  | dismiss id => exact .common (.dismiss d id)
  | guestObserves snapshot => exact guestObserves_acts d snapshot
  | requestExport order => exact requestExport_acts (List.mem_singleton_self _) d order
  | serve caller taken =>
    refine serve_acts (fun feed => ?_) (by simp [parts]) (by simp [parts]) d caller taken
    cases feed <;> simp [parts]
  | shutDown => exact shutDown_acts (by simp [parts]) (by simp [parts]) d
  | visit caller request =>
    refine visit_acts (fun wish granted part own => ?_) d caller
    simpa only [parts, granted] using own
  | pass span => exact .act (.pass d span) (List.mem_singleton_self _)
  | ring =>
    refine ringNext_acts fun alarm agenda taken => ?_
    simp only [parts, taken, List.mem_singleton]
  | resume => exact resumeNext_acts distinct (List.mem_singleton_self _)
  | answer ticket answer =>
    refine answer_acts distinct (fun task result settled => ?_) fun unsettled => ?_
    · simp only [parts, settled]
      exact ⟨List.mem_cons_self, fun part own => List.mem_cons_of_mem _ own⟩
    · simp only [parts, unsettled, List.mem_singleton]
  | settleSaving ticket saved =>
    exact settleSaving_acts (by simp [parts]) (by simp [parts]) d ticket saved
  | handOut => exact .act (.handOut d) (List.mem_singleton_self _)
  | hear => exact .common (.hear d)

end Desk

end Watchdesk
