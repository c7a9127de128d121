import Watchdesk.Proofs.Desk.Steady

/-!
# Questions and triggers

What goes between a desk and its backend: the calls that are under way, those that pause, and what
is handed out. Only the start of a job sends a trigger. All else that happens leaves every call
alone that it does not settle or repeat, and asks questions at most; and only questions pause. A
file is handed out only where the desk waits for it.
-/

namespace Watchdesk

/-- The trigger that is sent. -/
def Dispatch.trigger? : Dispatch → Option Request
  | .send _ request => if request.isTrigger then some request else none
  | .save _ _ => none

/-- The file of an export is handed out to be saved. -/
def Saving.dispatch (s : Saving) : Dispatch := .save s.ticket s.artifact

namespace Desk

/-- What goes between a desk and its backend, and the files that it waits for. -/
structure Traffic where
  calls : List Call
  pauses : List (Alarm Nat)
  tickets : Nat
  outbox : List Dispatch
  savings : List Saving

/-- What a desk holds of its calls, the files on their way and what has been handed out. -/
def traffic (d : Desk) : Traffic := ⟨d.calls, d.pauses, d.tickets, d.outbox, d.savings⟩

/-- A change in which the desk asks questions at most. -/
structure Asks (d e : Desk) : Prop where
  calls : ∃ new, e.calls = d.calls ++ new ∧
    ∀ call ∈ new, d.tickets < call.ticket ∧ call.request.isTrigger = false
  pauses : e.pauses = d.pauses
  tickets : d.tickets ≤ e.tickets
  outbox : ∃ sent, e.outbox = d.outbox ++ sent ∧ sent.filterMap Dispatch.trigger? = []
  files : ∃ filed, e.savings = d.savings ++ filed ∧ e.files = d.files ++ filed.map Saving.dispatch

variable {settings : Settings} {part : Part} {d e f : Desk}

theorem Asks.of_same (same : e.traffic = d.traffic) : Asks d e where
  calls := ⟨[], by rw [List.append_nil]; exact congrArg Traffic.calls same, by simp⟩
  pauses := congrArg Traffic.pauses same
  tickets := Nat.le_of_eq (congrArg Traffic.tickets same).symm
  outbox := ⟨[], by rw [List.append_nil]; exact congrArg Traffic.outbox same, rfl⟩
  files := by
    have outbox : e.outbox = d.outbox := congrArg Traffic.outbox same
    refine ⟨[], by rw [List.append_nil]; exact congrArg Traffic.savings same, ?_⟩
    rw [Desk.files, Desk.files, outbox]
    exact (List.append_nil _).symm

theorem Asks.refl (d : Desk) : Asks d d := .of_same rfl

theorem Asks.trans (first : Asks d e) (second : Asks e f) : Asks d f where
  calls := by
    obtain ⟨early, before, asked⟩ := first.calls
    obtain ⟨late, after, later⟩ := second.calls
    refine ⟨early ++ late, ?_, ?_⟩
    · rw [after, before, List.append_assoc]
    · intro call member
      rcases List.mem_append.mp member with own | own
      · exact asked call own
      · obtain ⟨issued, question⟩ := later call own
        exact ⟨Nat.lt_of_le_of_lt first.tickets issued, question⟩
  pauses := second.pauses.trans first.pauses
  tickets := Nat.le_trans first.tickets second.tickets
  outbox := by
    obtain ⟨early, before, asked⟩ := first.outbox
    obtain ⟨late, after, later⟩ := second.outbox
    refine ⟨early ++ late, ?_, ?_⟩
    · rw [after, before, List.append_assoc]
    · rw [List.filterMap_append, asked, later]
      rfl
  files := by
    obtain ⟨early, before, handed⟩ := first.files
    obtain ⟨late, after, later⟩ := second.files
    refine ⟨early ++ late, ?_, ?_⟩
    · rw [after, before, List.append_assoc]
    · rw [later, handed, List.map_append, List.append_assoc]

/-! ## Acts -/

theorem withStore_asks (d : Desk) (feed : Feed) (store : Store feed.State Observer) :
    Asks d (d.withStore feed store) := by
  cases feed <;> exact .of_same rfl

theorem follow_asks (d : Desk) (feed : Feed)
    (change : Store feed.State Observer × List (Order Nat)) : Asks d (d.follow feed change) := by
  refine .trans (withStore_asks d feed change.1) ?_
  exact .of_same rfl

theorem call_asks (d : Desk) {request : Request} (question : request.isTrigger = false)
    (task : Task) : Asks d (d.call request task) where
  calls := by
    refine ⟨[_], rfl, ?_⟩
    intro call member
    rw [List.mem_singleton.mp member]
    exact ⟨Nat.lt_succ_self _, question⟩
  pauses := rfl
  tickets := Nat.le_succ _
  outbox := by
    refine ⟨[_], rfl, ?_⟩
    simp [Dispatch.trigger?, question]
  files := ⟨[], (List.append_nil _).symm, List.filter_append ..⟩

theorem hands_asks (d : Desk) (order : ExportOrder) (artifact : Export.Artifact)
    (rows total : Nat) : Asks d (d.goOn order (.hands artifact rows total)) where
  calls := ⟨[], (List.append_nil _).symm, by simp⟩
  pauses := rfl
  tickets := Nat.le_succ _
  outbox := ⟨[_], rfl, rfl⟩
  files := ⟨[_], rfl, List.filter_append ..⟩

/-- It asks questions at most. -/
def Part.asks : Part → Bool
  | .starts | .files | .answered _ | .again | .handOut => false
  | _ => true

theorem Act.asks (act : Act part d e) (asks : part.asks = true) : Asks d e := by
  cases act with
  | unsubscribe d feed id => exact follow_asks d feed _
  | subscribe d feed observer => exact follow_asks d feed _
  | fire d feed number => exact withStore_asks d feed _
  | startPoll starts => exact withStore_asks d _ _
  | settle d feed source outcome => exact withStore_asks d feed _
  | rearm d feed source snapshot => exact follow_asks d feed _
  | @call d request task question fine =>
    refine call_asks d (question ?_) task
    intro starts
    rw [starts] at asks
    cases asks
  | hands opened order artifact rows total => exact hands_asks d order artifact rows total
  | _ => first | exact .of_same rfl | cases asks

theorem Acts.asks (acts : Acts (·.asks = true) d e) : Asks d e :=
  acts.lift .refl .trans rfl Act.asks

theorem settle_asks (d : Desk) (task : Task) (result : Except Fault String) :
    Asks d (d.settle task result) := by
  refine Acts.asks (settle_acts ?_ d result)
  cases task with
  | poll feed caller => cases feed <;> simp [Task.parts, Part.asks]
  | _ => simp [Task.parts, Part.asks]

/-! ## Starts -/

/-- A start of a job that is asked for. -/
structure Start where
  caller : Caller
  jobId : String
  message : String
  starter : Starter

/-- The start of a job that an event asks for, be it at the desk or through the interface. -/
def Event.start? : Event → Option Start
  | .run caller jobId message starter => some ⟨caller, jobId, message, starter⟩
  | .visit caller request =>
    match request.wish with
    | .ok (.start kind) => some ⟨caller, kind.jobId, kind.startMessage, .kind kind⟩
    | _ => none
  | _ => none

theorem step_of_start {event : Event} {start : Start} (asks : event.start? = some start) :
    d.step event = d.run start.caller start.jobId start.message start.starter := by
  cases event with
  | run caller jobId message starter =>
    cases asks
    rfl
  | visit caller request =>
    unfold Event.start? at asks
    dsimp only [step, visit] at asks ⊢
    cases wish : request.wish with
    | error response =>
      rw [wish] at asks
      cases asks
    | ok granted =>
      rw [wish] at asks
      cases granted with
      | start kind =>
        cases asks
        rfl
      | _ => cases asks
  | _ => cases asks

theorem visit_asks (d : Desk) {caller : Caller} {request : InterfaceRequest}
    (other : (Event.visit caller request).start? = none) : Asks d (d.visit caller request) := by
  refine Acts.asks (visit_acts (fun wish granted => ?_) d caller)
  unfold Event.start? at other
  dsimp only at other
  rw [granted] at other
  cases wish with
  | start kind => cases other
  | _ => simp [Wish.parts, Part.asks]

/-- The request that starts a job. -/
def Starter.request? (settings : BackendSettings) : Starter → Option Request
  | .done _ => none
  | .request own => some own
  | .kind job => some (settings.trigger job)

/-- A start is refused while a job runs. -/
theorem run_of_running (running : d.runner.view.status = .running) (caller : Caller)
    (jobId message : String) (starter : Starter) :
    d.run caller jobId message starter = d.tellRefused caller := by
  unfold Desk.run Runner.begin
  rw [if_pos running]

/-- A start that is not refused sends its request, if it has one. -/
theorem run_of_idle (idle : d.runner.view.status ≠ .running) (caller : Caller)
    (jobId message : String) (starter : Starter) :
    match starter.request? d.settings.backend with
    | none => Asks d (d.run caller jobId message starter)
    | some request => ∃ epoch anyReply,
        (d.run caller jobId message starter).traffic =
          (d.call request (.start epoch caller anyReply)).traffic := by
  unfold Desk.run Runner.begin
  rw [if_neg idle]
  cases starter with
  | done result =>
    exact .trans (Act.asks (.runner d _ _) rfl)
      (Acts.asks (settleStart_acts (by rfl) _ _ caller result))
  | request request => exact ⟨_, _, rfl⟩
  | kind kind => exact ⟨_, _, rfl⟩

/-! ## Whatever happens -/

/-- The request of the start that an event asks for, if the start is accepted. -/
def accepted (d : Desk) (event : Event) : List Request :=
  match event.start? with
  | none => []
  | some start =>
    if d.runner.view.status = .running then []
    else (start.starter.request? d.settings.backend).toList

theorem accepted_of_none {event : Event} (other : event.start? = none) :
    d.accepted event = [] := by
  unfold accepted
  rw [other]

/-- What an event does to the traffic of a desk: it asks at most, sends a trigger, settles a call or
lets it pause, ends a pause, settles a file, or takes away what was handed out. -/
inductive Handles (d : Desk) : Event → Desk → Prop where
  | asks {event : Event} {e : Desk} (other : event ≠ .handOut) (bare : d.accepted event = [])
      (asks : Asks d e) : Handles d event e
  | starts {event : Event} {e : Desk} {request : Request} {epoch : Nat} {caller : Caller}
      {anyReply : Bool} (accepted : d.accepted event = [request])
      (same : e.traffic = (d.call request (.start epoch caller anyReply)).traffic) :
      Handles d event e
  | settles {call : Call} {answer : Except Fault Reply} {e : Desk} (pending : call ∈ d.calls)
      (asks : Asks (d.forget call.ticket) e) : Handles d (.answer call.ticket answer) e
  | saves {ticket : Nat} {saved : Except Fault String} {e : Desk}
      (asks : Asks { d with savings := d.savings.filter fun s => s.ticket ≠ ticket } e) :
      Handles d (.settleSaving ticket saved) e
  | pauses {call : Call} {answer : Except Fault Reply} (pending : call ∈ d.calls)
      (question : call.request.isTrigger = false) (span : Nat) :
      Handles d (.answer call.ticket answer) (d.pause call span)
  | rests {pause : Alarm Nat} {pauses : List (Alarm Nat)} (first : d.pauses = pause :: pauses) :
      Handles d .resume { d with pauses }
  | repeats {pause : Alarm Nat} {pauses : List (Alarm Nat)} {call : Call}
      (first : d.pauses = pause :: pauses) (due : pause.due ≤ d.now) (pending : call ∈ d.calls)
      (own : call.ticket = pause.key) : Handles d .resume ({ d with pauses }.resend call)
  | handOut : Handles d .handOut { d with outbox := d.outbox.tail }

theorem answer_handles (d : Desk) (ticket : Nat) (answer : Except Fault Reply) :
    Handles d (.answer ticket answer) (d.answer ticket answer) := by
  unfold Desk.answer
  cases found : d.calls.find? fun c => c.ticket == ticket with
  | none => exact .asks (by simp) rfl (.refl d)
  | some call =>
    have pending : call ∈ d.calls := List.mem_of_find?_eq_some found
    have same : call.ticket = ticket := by simpa using List.find?_some found
    subst same
    dsimp only
    cases request : call.request with
    | post url body => exact .settles pending (settle_asks _ _ _)
    | get url =>
      dsimp only
      cases Retry.judge d.settings.backend call.attempts answer with
      | settled result => exact .settles pending (settle_asks _ _ _)
      | again span => exact .pauses pending (by rw [request]; rfl) span

theorem resumeNext_handles (d : Desk) : Handles d .resume d.resumeNext := by
  unfold resumeNext
  cases first : d.pauses with
  | nil => exact .asks (by simp) rfl (.refl d)
  | cons pause pauses =>
    dsimp only
    split
    · next due =>
      unfold Desk.resume
      cases found : d.calls.find? fun c => c.ticket == pause.key with
      | none =>
        exact .rests first
      | some call =>
        exact .repeats first due (List.mem_of_find?_eq_some found)
          (by simpa using List.find?_some found)
    · exact .asks (by simp) rfl (.refl d)

theorem settleSaving_handles (d : Desk) (ticket : Nat) (saved : Except Fault String) :
    Handles d (.settleSaving ticket saved) (d.settleSaving ticket saved) := by
  cases found : d.savings.find? fun s => s.ticket == ticket with
  | none =>
    unfold settleSaving
    rw [found]
    exact .asks (by simp) rfl (.refl d)
  | some s =>
    rw [settleSaving_eq d saved found]
    exact .saves (Acts.asks (perform_acts (by rfl) s.order fun _ => rfl))

theorem step_handles_of_start {event : Event} {start : Start}
    (starts : event.start? = some start) : Handles d event (d.step event) := by
  have other : event ≠ .handOut := by
    rintro rfl
    cases starts
  rw [step_of_start starts]
  by_cases running : d.runner.view.status = .running
  · rw [run_of_running running]
    refine .asks other ?_ (Acts.asks (tellRefused_acts d start.caller))
    unfold accepted
    rw [starts]
    exact if_pos running
  · have accepted : d.accepted event = (start.starter.request? d.settings.backend).toList := by
      unfold accepted
      rw [starts]
      exact if_neg running
    have ran := run_of_idle running start.caller start.jobId start.message start.starter
    split at ran
    · next bare =>
      rw [bare] at accepted
      exact .asks other accepted ran
    · next request found =>
      obtain ⟨epoch, anyReply, same⟩ := ran
      rw [found] at accepted
      exact .starts accepted same

theorem Orderly.step_handles (orderly : Orderly settings d) (event : Event) :
    Handles d event (d.step event) := by
  cases starts : event.start? with
  | some start => exact step_handles_of_start starts
  | none =>
    have asks (asking : ∀ part ∈ d.parts event, part.asks = true) (stays : event ≠ .handOut) :
        Handles d event (d.step event) :=
      .asks stays (accepted_of_none starts)
        (Acts.asks ((step_acts orderly.distinct event).mono asking))
    cases event with
    | run caller jobId message starter => cases starts
    | visit caller request => exact .asks (by simp) (accepted_of_none starts) (visit_asks d starts)
    | answer ticket answer => exact answer_handles d ticket answer
    | resume => exact resumeNext_handles d
    | handOut => exact .handOut
    | settleSaving ticket saved => exact settleSaving_handles d ticket saved
    | ring =>
      refine asks (fun part own => ?_) (by simp)
      obtain ⟨alarm, agenda, -, rfl⟩ := mem_ring_parts own
      cases alarm.key <;> rfl
    | _ => exact asks (by simp [parts, Part.asks]) (by simp)

/-! ## What is kept -/

/-- Only questions pause, and exports only ask questions. -/
structure Fair (d : Desk) : Prop where
  issued : ∀ pause ∈ d.pauses, pause.key ≤ d.tickets
  paused : ∀ pause ∈ d.pauses, ∀ call ∈ d.calls, call.ticket = pause.key →
    call.request.isTrigger = false
  exports : ∀ call ∈ d.calls, call.task.isExport = true → call.request.isTrigger = false

/-- What neither lets a call pause nor opens one keeps a desk fair. -/
theorem Fair.of_kept (fair : d.Fair) (pauses : e.pauses.Sublist d.pauses)
    (tickets : d.tickets ≤ e.tickets)
    (calls : ∀ call ∈ e.calls, ∃ old ∈ d.calls, old.ticket = call.ticket ∧
      old.request = call.request ∧ old.task = call.task) : e.Fair where
  issued := by
    intro pause member
    exact Nat.le_trans (fair.issued pause (pauses.mem member)) tickets
  paused := by
    intro pause member call pending own
    obtain ⟨old, earlier, ticket, request, -⟩ := calls call pending
    rw [← request]
    exact fair.paused pause (pauses.mem member) old earlier (ticket.trans own)
  exports := by
    intro call pending own
    obtain ⟨old, earlier, -, request, task⟩ := calls call pending
    rw [← request]
    exact fair.exports old earlier (task ▸ own)

/-- A further call does not pause yet. -/
theorem Fair.of_opened (fair : d.Fair) {new : List Call} (calls : e.calls = d.calls ++ new)
    (later : ∀ call ∈ new, d.tickets < call.ticket)
    (exports : ∀ call ∈ new, call.task.isExport = true → call.request.isTrigger = false)
    (pauses : e.pauses = d.pauses) (tickets : d.tickets ≤ e.tickets) : e.Fair where
  issued := by
    intro pause member
    rw [pauses] at member
    exact Nat.le_trans (fair.issued pause member) tickets
  paused := by
    intro pause member call pending own
    rw [pauses] at member
    rw [calls] at pending
    rcases List.mem_append.mp pending with earlier | opened
    · exact fair.paused pause member call earlier own
    · have bound := fair.issued pause member
      have issued := later call opened
      omega
  exports := by
    intro call pending own
    rw [calls] at pending
    rcases List.mem_append.mp pending with earlier | opened
    · exact fair.exports call earlier own
    · exact exports call opened own

theorem Fair.asks (fair : d.Fair) (asks : Asks d e) : e.Fair := by
  obtain ⟨new, calls, asked⟩ := asks.calls
  exact fair.of_opened calls (fun call own => (asked call own).1)
    (fun call own _ => (asked call own).2) asks.pauses asks.tickets

theorem Fair.forget (fair : d.Fair) (ticket : Nat) : (d.forget ticket).Fair :=
  fair.of_kept (.refl _) (Nat.le_refl _) fun call pending =>
    ⟨call, List.mem_of_mem_filter pending, rfl, rfl, rfl⟩

theorem Fair.resend (fair : d.Fair) (orderly : Orderly settings d) {call : Call}
    (pending : call ∈ d.calls) : (d.resend call).Fair := by
  refine fair.of_kept (.refl _) (Nat.le_refl _) ?_
  intro other member
  rw [(orderly.only pending).resend_calls] at member
  obtain ⟨old, earlier, rfl⟩ := List.mem_map.mp member
  exact ⟨old, earlier, rfl, rfl, rfl⟩

theorem Fair.pause (fair : d.Fair) (orderly : Orderly settings d) {call : Call}
    (pending : call ∈ d.calls) (question : call.request.isTrigger = false) (span : Nat) :
    (d.pause call span).Fair := by
  unfold Desk.pause
  split
  -- Without a pause the call is sent again at once.
  · exact fair.resend orderly pending
  · exact
      { issued := by
          intro pause member
          rcases List.mem_cons.mp ((Agenda.place_perm _ _).mem_iff.mp member) with rfl | earlier
          · exact orderly.issued call pending
          · exact fair.issued pause earlier
        paused := by
          intro pause member other others own
          rcases List.mem_cons.mp ((Agenda.place_perm _ _).mem_iff.mp member) with rfl | earlier
          · rw [orderly.only pending other others own]
            exact question
          · exact fair.paused pause earlier other others own
        exports := fair.exports }

theorem Fair.handles (fair : d.Fair) (orderly : Orderly settings d) {event : Event}
    (handles : Handles d event e) : e.Fair := by
  cases handles with
  | asks other bare asks => exact fair.asks asks
  | starts accepted same =>
    refine fair.of_opened (congrArg Traffic.calls same) ?_ ?_ (congrArg Traffic.pauses same) ?_
    · intro call own
      rw [List.mem_singleton.mp own]
      exact Nat.lt_succ_self _
    · intro call own isExport
      rw [List.mem_singleton.mp own] at isExport
      cases isExport
    · exact Nat.le_trans (Nat.le_succ _) (Nat.le_of_eq (congrArg Traffic.tickets same).symm)
  | settles pending asks => exact (fair.forget _).asks asks
  | saves asks =>
    refine Fair.asks ?_ asks
    exact fair.of_kept (.refl _) (Nat.le_refl _) fun call pending => ⟨call, pending, rfl, rfl, rfl⟩
  | pauses pending question span => exact fair.pause orderly pending question span
  | @rests pause pauses first =>
    refine fair.of_kept ?_ (Nat.le_refl _) fun call pending => ⟨call, pending, rfl, rfl, rfl⟩
    rw [first]
    exact List.sublist_cons_self _ _
  | @repeats pause pauses call first due pending own =>
    have rested : { d with pauses }.Fair := by
      refine fair.of_kept ?_ (Nat.le_refl _) fun call pending => ⟨call, pending, rfl, rfl, rfl⟩
      rw [first]
      exact List.sublist_cons_self _ _
    exact rested.resend (orderly.of_same rfl rfl (Nat.le_refl _)) pending
  | handOut =>
    exact fair.of_kept (.refl _) (Nat.le_refl _) fun call pending =>
      ⟨call, pending, rfl, rfl, rfl⟩

theorem Fair.step (fair : d.Fair) (orderly : Orderly settings d) (event : Event) :
    (d.step event).Fair :=
  fair.handles orderly (orderly.step_handles event)

theorem ofSettings_fair (settings : Settings) (hooked : Bool) :
    (ofSettings settings hooked).Fair where
  issued := fun _ member => absurd member List.not_mem_nil
  paused := fun _ member => absurd member List.not_mem_nil
  exports := fun _ member => absurd member List.not_mem_nil

theorem Fair.live (fair : d.Fair) (orderly : Orderly settings d) (events : List Event) :
    (d.live events).Fair := by
  induction events generalizing d with
  | nil => exact fair
  | cons event events ih =>
    exact ih (fair.step orderly event) (orderly.moves (step_moves d event))

/-- The call that an event settles or repeats, by its ticket. -/
def touched (d : Desk) : Event → Option Nat
  | .answer ticket _ => some ticket
  | .resume =>
    match d.pauses with
    | [] => none
    | pause :: _ => if pause.due ≤ d.now then some pause.key else none
  | _ => none

/-- A call that is not touched stays as it is. -/
theorem Orderly.step_calls (orderly : Orderly settings d) {event : Event} {call : Call}
    (pending : call ∈ d.calls) (other : d.touched event ≠ some call.ticket) :
    call ∈ (d.step event).calls := by
  have resent {d : Desk} {again : Call} (kept : call ∈ d.calls)
      (different : call.ticket ≠ again.ticket) : call ∈ (d.resend again).calls :=
    List.mem_map.mpr ⟨call, kept, if_neg different⟩
  have handles := orderly.step_handles event
  generalize d.step event = e at handles
  cases handles with
  | asks _ _ asks =>
    obtain ⟨new, calls, -⟩ := asks.calls
    rw [calls]
    exact List.mem_append_left _ pending
  | starts _ same =>
    have calls : e.calls = (d.call _ _).calls := congrArg Traffic.calls same
    rw [calls]
    exact List.mem_append_left _ pending
  | @settles settled answer e _ asks =>
    obtain ⟨new, calls, -⟩ := asks.calls
    rw [calls]
    refine List.mem_append_left _ (List.mem_filter.mpr ⟨pending, ?_⟩)
    have different : call.ticket ≠ settled.ticket := fun same => other (by rw [same]; rfl)
    simpa using different
  | saves asks =>
    obtain ⟨new, calls, -⟩ := asks.calls
    rw [calls]
    exact List.mem_append_left _ pending
  | @pauses again answer _ _ span =>
    have different : call.ticket ≠ again.ticket := fun same => other (by rw [same]; rfl)
    unfold Desk.pause
    split
    · exact resent pending different
    · exact pending
  | rests first => exact pending
  | @repeats pause pauses again first due _ own =>
    have key : d.touched .resume = some pause.key := by
      unfold touched
      rw [first]
      exact if_pos due
    have different : call.ticket ≠ again.ticket := by
      intro same
      exact other (by rw [key, same, own])
    exact resent pending different
  | handOut => exact pending

/-- What is taken away to be done at an event. -/
def handedOut (d : Desk) : Event → List Dispatch
  | .handOut => d.outbox.take 1
  | _ => []

theorem handedOut_of_ne {event : Event} (other : event ≠ .handOut) : d.handedOut event = [] := by
  cases event <;> first | rfl | exact absurd rfl other

theorem handedOut_of_accepted {event : Event} {request : Request}
    (accepted : d.accepted event = [request]) : d.handedOut event = [] := by
  refine handedOut_of_ne ?_
  rintro rfl
  cases accepted

/-- Whatever happens, the files that are handed out are those that the desk waits for from then
on. -/
theorem Orderly.step_files (orderly : Orderly settings d) {event : Event}
    (other : ∀ ticket saved, event ≠ .settleSaving ticket saved) : ∃ filed,
    (d.step event).savings = d.savings ++ filed ∧
    (d.handedOut event).filter Dispatch.isSave ++ (d.step event).files =
      d.files ++ filed.map Saving.dispatch := by
  have kept {e : Desk} (savings : e.savings = d.savings) (files : e.files = d.files) :
      ∃ filed, e.savings = d.savings ++ filed ∧
        e.files = d.files ++ filed.map Saving.dispatch :=
    ⟨[], savings.trans (List.append_nil _).symm, files.trans (List.append_nil _).symm⟩
  have handles := orderly.step_handles event
  generalize d.step event = e at handles
  cases handles with
  | asks stays bare asks =>
    rw [handedOut_of_ne stays]
    exact asks.files
  | starts accepted same =>
    rw [handedOut_of_accepted accepted]
    exact kept (congrArg Traffic.savings same) (files_of_sent (congrArg Traffic.outbox same))
  | settles pending asks => exact asks.files
  | saves asks => exact absurd rfl (other _ _)
  | @pauses call answer pending question span =>
    unfold Desk.pause
    split
    · exact kept rfl (files_of_sent rfl)
    · exact kept rfl rfl
  | rests first => exact kept rfl rfl
  | repeats first due pending own => exact kept rfl (files_of_sent rfl)
  | handOut =>
    refine ⟨[], (List.append_nil _).symm, ?_⟩
    rw [Desk.files, Desk.files, ← List.filter_append, ← List.drop_one, List.map_nil,
      List.append_nil]
    exact congrArg (List.filter Dispatch.isSave) (List.take_append_drop 1 d.outbox)

end Desk

end Watchdesk
