import Watchdesk.Proofs.Desk.Chasing
import Watchdesk.Proofs.Desk.Slot
import Watchdesk.Proofs.Desk.Traffic
import Watchdesk.Proofs.Running.Superseded
import Watchdesk.Proofs.Text.Splitting

/-!
# Jobs are started once

A start is refused while a job runs, and sends one trigger otherwise. What a desk hands out over its
life holds the triggers of the starts that it accepts, in their order, and no others: a trigger is
never sent again, whatever its answer is. The start of a job through the interface is answered when
its trigger is, but with what the runner shows then.
-/

namespace Watchdesk

/-- How a caller is told that another job runs. -/
def Caller.refusal : Caller → Report
  | .operator number => .started (.operator number) false
  | .page number => .answered (.page number) .runnerBusy

/-- The backend has started a job. -/
def Retry.accepts (answer : Except Fault Reply) : Bool :=
  match readBody TriggerReply.decoder (triggered answer) with
  | .ok _ => true
  | .error _ => false

namespace Desk

/-- Everything that is taken away to be done in the course of events. -/
def dispatched (d : Desk) : List Event → List Dispatch
  | [] => []
  | event :: events => d.handedOut event ++ (d.step event).dispatched events

/-- The requests of all starts that are accepted in the course of events. -/
def acceptedIn (d : Desk) : List Event → List Request
  | [] => []
  | event :: events => d.accepted event ++ (d.step event).acceptedIn events

variable {settings : Settings} {d e : Desk}

theorem tellRefused_eq (d : Desk) (caller : Caller) :
    d.tellRefused caller = d.tell caller.refusal := by
  cases caller <;> rfl

theorem filterMap_trigger?_send (ticket : Nat) (request : Request) :
    [Dispatch.send ticket request].filterMap Dispatch.trigger? =
      [request].filter Request.isTrigger := by
  cases request <;> rfl

/-- What is handed out again is a question. -/
theorem Fair.trigger?_resend (fair : d.Fair) {pause : Alarm Nat} (first : pause ∈ d.pauses)
    {call : Call} (pending : call ∈ d.calls) (own : call.ticket = pause.key) :
    (Dispatch.send call.ticket call.request).trigger? = none := by
  have question := fair.paused pause first call pending own
  exact if_neg (by simp [question])

/-- Besides what was there, an event puts into the outbox the trigger that it is accepted with, and
no other. -/
theorem Fair.step_outbox (fair : d.Fair) (orderly : Orderly settings d) (event : Event) :
    ∃ sent,
    d.handedOut event ++ (d.step event).outbox = d.outbox ++ sent ∧
    sent.filterMap Dispatch.trigger? = (d.accepted event).filter Request.isTrigger := by
  have handles := orderly.step_handles event
  generalize d.step event = e at handles
  cases handles with
  | asks other bare asks =>
    rw [handedOut_of_ne other, bare]
    exact asks.outbox
  | @starts event e request epoch caller anyReply accepted same =>
    rw [handedOut_of_accepted accepted, accepted]
    refine ⟨[.send (d.tickets + 1) request], congrArg Traffic.outbox same, ?_⟩
    exact filterMap_trigger?_send _ request
  | settles pending asks => exact asks.outbox
  | saves asks => exact asks.outbox
  | @pauses call answer pending question span =>
    unfold Desk.pause
    split
    · refine ⟨[.send call.ticket call.request], rfl, ?_⟩
      rw [filterMap_trigger?_send, List.filter_singleton, question]
      rfl
    · exact ⟨[], (List.append_nil _).symm, rfl⟩
  | rests first => exact ⟨[], (List.append_nil _).symm, rfl⟩
  | @repeats pause pauses call first due pending own =>
    have member : pause ∈ d.pauses := by
      rw [first]
      exact List.mem_cons_self
    refine ⟨[.send call.ticket call.request], rfl, ?_⟩
    rw [List.filterMap_cons_none (fair.trigger?_resend member pending own)]
    rfl
  | handOut =>
    refine ⟨[], ?_, rfl⟩
    rw [List.append_nil, ← List.drop_one]
    exact List.take_append_drop 1 d.outbox

/-- The triggers that are handed out over a life, or wait to be, are those that waited at its
beginning and those of the starts that it accepts. -/
theorem Fair.live_outbox (fair : d.Fair) (orderly : Orderly settings d) (events : List Event) :
    (d.dispatched events ++ (d.live events).outbox).filterMap Dispatch.trigger? =
      d.outbox.filterMap Dispatch.trigger? ++
        (d.acceptedIn events).filter Request.isTrigger := by
  induction events generalizing d with
  | nil => exact (List.append_nil _).symm
  | cons event events ih =>
    have rest := ih (fair.step orderly event) (orderly.moves (step_moves d event))
    obtain ⟨sent, moved, own⟩ := fair.step_outbox orderly event
    rw [live_cons, dispatched, acceptedIn, List.append_assoc, List.filterMap_append, rest,
      ← List.append_assoc, ← List.filterMap_append, moved, List.filterMap_append, own,
      List.filter_append, List.append_assoc]

/-- What a start does that is accepted: the run has an epoch of its own, and a request is sent if
the start has one; its caller is told later then. -/
theorem run_of_idle_eq (idle : d.runner.view.status ≠ .running) {caller : Caller}
    {jobId message : String} {starter : Starter} :
    let e := d.run caller jobId message starter
    e.runner.epoch = d.runner.epoch + 1 ∧
    match starter.request? d.settings.backend with
    | none => e.outbox = d.outbox
    | some request =>
      e.outbox = d.outbox ++ [.send (d.tickets + 1) request] ∧ e.reports = d.reports ∧
      e.runner.view = { status := .running, message, jobId := some jobId, loading := true } := by
  unfold Desk.run Runner.begin
  rw [if_neg idle]
  cases starter with
  | done result =>
    refine ⟨?_, ?_⟩
    · cases caller <;> exact Chase.epoch_started _ _ _ _
    · cases caller <;> rfl
  | request request => exact ⟨rfl, rfl, rfl, rfl⟩
  | kind kind => exact ⟨rfl, rfl, rfl, rfl⟩

/-- A start is refused exactly while a job runs, and then only its caller is told. -/
theorem step_of_start_eq {event : Event} {start : Start} (asks : event.start? = some start) :
    if d.runner.view.status = .running then
      d.step event = { d with reports := d.reports ++ [start.caller.refusal] }
    else
      (d.step event).runner.epoch = d.runner.epoch + 1 ∧
      match start.starter.request? d.settings.backend with
      | none => (d.step event).outbox = d.outbox
      | some request =>
        (d.step event).outbox = d.outbox ++ [.send (d.tickets + 1) request] ∧
        (d.step event).reports = d.reports ∧
        (d.step event).runner.view =
          { status := .running, message := start.message, jobId := some start.jobId,
            loading := true } := by
  rw [step_of_start asks]
  by_cases running : d.runner.view.status = .running
  · rw [if_pos running, run_of_running running, tellRefused_eq]
    rfl
  · rw [if_neg running]
    exact run_of_idle_eq running

/-- In every life of a desk, the triggers that it sends are those of the starts that it accepts, in
their order and once each, whatever they are answered. A start is refused exactly while a job runs,
and then only its caller is told; any other start begins a run of its own. What asks for no start
sends no trigger. -/
theorem live_triggers (settings : Settings) (hooked : Bool) (events : List Event) :
    let fresh := ofSettings settings hooked
    let d := fresh.live events
    (fresh.dispatched events ++ d.outbox).filterMap Dispatch.trigger? =
      (fresh.acceptedIn events).filter Request.isTrigger ∧
    ∀ event : Event, match event.start? with
      | none => ∃ sent, d.handedOut event ++ (d.step event).outbox = d.outbox ++ sent ∧
          sent.filterMap Dispatch.trigger? = []
      | some start =>
        if d.runner.view.status = .running then
          d.step event = { d with reports := d.reports ++ [start.caller.refusal] }
        else
          (d.step event).runner.epoch = d.runner.epoch + 1 ∧
          match start.starter.request? settings.backend with
          | none => (d.step event).outbox = d.outbox
          | some request =>
            (d.step event).outbox = d.outbox ++ [.send (d.tickets + 1) request] ∧
            (d.step event).reports = d.reports ∧
            (d.step event).runner.view =
              { status := .running, message := start.message, jobId := some start.jobId,
                loading := true } := by
  intro fresh d
  have orderly := ofSettings_orderly settings hooked
  have fair := ofSettings_fair settings hooked
  refine ⟨fair.live_outbox orderly events, ?_⟩
  intro event
  have lived : Orderly settings d := (orderly.live_sound (.inl rfl) events).1
  have kept : d.settings = settings := lived.settings
  have sent := (fair.live orderly events).step_outbox lived event
  split
  · next starts =>
    rw [accepted_of_none starts] at sent
    exact sent
  · next start starts =>
    rw [← kept]
    exact step_of_start_eq starts

/-! ## Jobs that are started through the interface -/

/-- As long as the start of the current run has not settled, the runner runs. -/
theorem live_running_of_start (settings : Settings) (hooked : Bool) (events : List Event) :
    let d := (ofSettings settings hooked).live events
    ∀ call ∈ d.calls, call.task.startOf = some d.runner.epoch →
      d.runner.view.status = .running := by
  intro d call pending own
  have loaded : (d.tasks.filterMap Task.startOf).count d.runner.epoch + _ + _ =
      if d.runner.view.status = .running then 1 else 0 :=
    (live_questions settings hooked events).2.2
  have member : d.runner.epoch ∈ d.tasks.filterMap Task.startOf :=
    List.mem_filterMap.mpr ⟨call.task, List.mem_map_of_mem pending, own⟩
  have waits := List.count_pos_iff.mpr member
  by_contra idle
  rw [if_neg idle] at loaded
  omega

/-- The answer to the trigger of a kind of job settles the start of its run. -/
theorem Orderly.answer_trigger (orderly : Orderly settings d) {ticket epoch : Nat}
    {caller : Caller} {kind : JobKind} {attempts : Nat}
    (pending :
      ⟨ticket, settings.backend.trigger kind, .start epoch caller false, attempts⟩ ∈ d.calls)
    (answer : Except Fault Reply) :
    d.answer ticket answer = (d.forget ticket).settleStart epoch caller
      ((readBody TriggerReply.decoder (Retry.triggered answer)).map fun _ => ()) := by
  have found := orderly.find?_ticket pending
  unfold Desk.answer
  dsimp only at found
  rw [found]
  rfl

/-- A trigger that is not answered stays where it is. -/
theorem Fair.live_trigger (fair : d.Fair) (orderly : Orderly settings d) {call : Call}
    (pending : call ∈ d.calls) (trigger : call.request.isTrigger = true) {events : List Event}
    (silent : ∀ answer, .answer call.ticket answer ∉ events) : call ∈ (d.live events).calls := by
  induction events generalizing d with
  | nil => exact pending
  | cons event events ih =>
    refine ih (fair.step orderly event) (orderly.moves (step_moves d event)) ?_ ?_
    · refine orderly.step_calls pending ?_
      intro touched
      cases event with
      | answer ticket answer =>
        cases touched
        exact silent answer List.mem_cons_self
      | resume =>
        -- Only questions pause.
        unfold Desk.touched at touched
        cases first : d.pauses with
        | nil =>
          rw [first] at touched
          cases touched
        | cons pause pauses =>
          rw [first] at touched
          dsimp only at touched
          split at touched
          · have own : call.ticket = pause.key := (Option.some.inj touched).symm
            have member : pause ∈ d.pauses := by
              rw [first]
              exact List.mem_cons_self
            have question := fair.paused pause member call pending own
            rw [trigger] at question
            cases question
          · cases touched
      | _ => cases touched
    · intro answer member
      exact silent answer (List.mem_cons_of_mem _ member)

/-- Whoever started a job through the interface is answered with what the runner shows when the
start settles. -/
theorem settleStart_reports (d : Desk) (epoch number : Nat) (result : Except Fault Unit) :
    let e := d.settleStart epoch (.page number) result
    e.reports = d.reports ++ [.answered (.page number) (.ofView e.runner.view)] :=
  rfl

theorem settleStart_runner (d : Desk) (epoch : Nat) (caller : Caller)
    (result : Except Fault Unit) :
    (d.settleStart epoch caller result).runner =
      (d.runner.started d.settings.runner epoch result).1 := by
  cases caller <;> rfl

/-- What a runner that runs shows when the start of its run settles. -/
theorem settleStart_status (running : d.runner.view.status = .running) (caller : Caller)
    (result : Except Fault Unit) :
    (d.settleStart d.runner.epoch caller result).runner.view.status =
      match result with
      | .ok _ => .running
      | .error _ => .error := by
  rw [settleStart_runner]
  cases result with
  | ok value =>
    simp only [Runner.started, if_pos]
    exact running
  | error fault =>
    simp only [Runner.started, if_pos]
    rfl

/-- The trigger of a kind of job waits for its answer. -/
theorem runKind_calls (idle : d.runner.view.status ≠ .running) (caller : Caller)
    (kind : JobKind) :
    (d.runKind caller kind).calls = d.calls ++ [{
      ticket := d.tickets + 1
      request := d.settings.backend.trigger kind
      task := .start (d.runner.epoch + 1) caller false }] := by
  unfold runKind Desk.run Runner.begin
  rw [if_neg idle]
  rfl

/-- When the trigger of a job is answered, so is the request that started the job: by what became of
the trigger as long as the run is the current one, and otherwise by what the runner shows. -/
theorem Orderly.answer_jobRequest (orderly : Orderly settings d) {ticket epoch number : Nat}
    {kind : JobKind} {attempts : Nat}
    (pending : ⟨ticket, settings.backend.trigger kind, .start epoch (.page number) false,
      attempts⟩ ∈ d.calls)
    (running : d.runner.epoch = epoch → d.runner.view.status = .running)
    (answer : Except Fault Reply) :
    let e := d.answer ticket answer
    ∃ response, e.reports = d.reports ++ [.answered (.page number) response] ∧
      if d.runner.epoch = epoch then
        response.status = if Retry.accepts answer then 202 else 502
      else e.runner = d.runner ∧ response = .ofView d.runner.view := by
  intro e
  let result := (readBody TriggerReply.decoder (Retry.triggered answer)).map fun _ => ()
  have settled : e = (d.forget ticket).settleStart epoch (.page number) result :=
    orderly.answer_trigger pending answer
  refine ⟨.ofView e.runner.view, ?_, ?_⟩
  · rw [settled]
    exact settleStart_reports _ epoch number result
  · split
    · next current =>
      subst current
      have status := @settleStart_status (d.forget ticket) (running rfl) (.page number) result
      have shown : e.runner.view.status = _ := settled ▸ status
      unfold Retry.accepts
      cases outcome : readBody TriggerReply.decoder (Retry.triggered answer) with
      | ok reply =>
        simp only [result, outcome, Except.map] at shown
        exact if_neg (by simp [shown])
      | error fault =>
        simp only [result, outcome, Except.map] at shown
        exact if_pos shown
    · next past =>
      have superseded := @settleStart_superseded (d.forget ticket) epoch past (.page number) result
      have same : e.runner = d.runner := by
        rw [settled, superseded]
        rfl
      exact ⟨same, by rw [same]⟩

/-- In every life of a desk, a request to start a job is refused exactly while a job runs, which
sends nothing and changes nothing. Otherwise its trigger is sent, and the request is answered once
that trigger is: with 202 if the backend has started the job and with 502 if not, as long as the run
is still the current one. A run that was reset or superseded in the meantime is answered with
what the runner shows by then, whatever became of its trigger. Other requests send no trigger. -/
theorem live_jobRequests (settings : Settings) (hooked : Bool) (events : List Event)
    (number : Nat) (request : InterfaceRequest) :
    let d := (ofSettings settings hooked).live events
    let e := d.step (.visit (.page number) request)
    match request.wish with
    | .ok (.start kind) =>
      if d.runner.view.status = .running then
        e = { d with reports := d.reports ++ [.answered (.page number) .runnerBusy] }
      else
        e.outbox = d.outbox ++ [.send (d.tickets + 1) (settings.backend.trigger kind)] ∧
        e.reports = d.reports ∧
        ∀ (later : List Event) (answer : Except Fault Reply),
          (∀ other, .answer (d.tickets + 1) other ∉ later) →
          let f := e.live later
          let g := f.step (.answer (d.tickets + 1) answer)
          ∃ response, g.reports = f.reports ++ [.answered (.page number) response] ∧
            if f.runner.epoch = d.runner.epoch + 1 then
              response.status = if Retry.accepts answer then 202 else 502
            else g.runner = f.runner ∧ response = .ofView f.runner.view
    | _ => Asks d e := by
  intro d e
  split
  · next kind wish =>
    have fresh := ofSettings_orderly settings hooked
    have start : (Event.visit (.page number) request).start? =
        some ⟨.page number, kind.jobId, kind.startMessage, .kind kind⟩ := by
      unfold Event.start?
      dsimp only
      rw [wish]
    have started := @step_of_start_eq d _ _ start
    split
    · next running =>
      rw [if_pos running] at started
      exact started
    · next idle =>
      rw [if_neg idle] at started
      obtain ⟨-, outbox, reports, -⟩ := started
      obtain ⟨orderly, -⟩ := fresh.live_sound (.inl rfl) events
      have fair := (ofSettings_fair settings hooked).live fresh events
      have kept : d.settings = settings := orderly.settings
      refine ⟨kept ▸ outbox, reports, ?_⟩
      intro later answer silent f g
      have launched : e = d.runKind (.page number) kind := step_of_start start
      have calls := runKind_calls idle (.page number) kind
      rw [← launched, kept] at calls
      have opened : _ ∈ e.calls := calls ▸ List.mem_append_right _ (List.mem_singleton_self _)
      -- The call waits for its answer until it is answered.
      have pending : _ ∈ f.calls := Fair.live_trigger (fair.step orderly _)
        (orderly.moves (step_moves d _)) opened rfl silent
      have lived : f = (ofSettings settings hooked).live
          (events ++ .visit (.page number) request :: later) := by
        rw [live, List.foldl_append]
        rfl
      have later_orderly : Orderly settings f := by
        rw [lived]
        exact (fresh.live_sound (.inl rfl) _).1
      refine later_orderly.answer_jobRequest pending ?_ answer
      intro current
      rw [lived] at pending current ⊢
      exact live_running_of_start settings hooked _ _ pending (congrArg some current.symm)
  · next other =>
    refine visit_asks d ?_
    unfold Event.start?
    dsimp only
    split
    · next kind wish => exact absurd wish (other kind)
    · rfl

/-- The status with which a page was answered. -/
def statusFor (number : Nat) : Report → Option Nat
  | .answered caller response => if caller = .page number then some response.status else none
  | _ => none

theorem visit_of_wish {request : InterfaceRequest} {wish : Wish}
    (granted : request.wish = .ok wish) (d : Desk) (caller : Caller) :
    d.visit caller request =
      d.grant caller (fun r => if request.method = "HEAD" then r.withoutBody else r) wish := by
  unfold visit
  rw [granted]

/-- A start is answered with 202 although its trigger fails: the runner is reset before the trigger
is answered. And one is answered with 502 although the backend starts its job: after the reset the
trigger of another start has failed. -/
theorem answered_by_other_trigger :
    let post : InterfaceRequest :=
      ⟨"POST", "/api/jobs", some "application/json", "\x7b\"kind\":\"sync_masters\"\x7d"⟩
    let reset : InterfaceRequest := ⟨"POST", "/api/runner/reset", none, ""⟩
    let begun := (ofSettings {} false).live [.visit (.page 0) post, .visit (.page 1) reset]
    let failed : Except Fault Reply := .ok ⟨500, ""⟩
    let started : Except Fault Reply := .ok ⟨200, "\x7b\"success\":true\x7d"⟩
    post.wish = .ok (.start .syncMasters) ∧
    Retry.accepts failed = false ∧ Retry.accepts started = true ∧
    (begun.live [.answer 1 failed]).reports.filterMap (statusFor 0) = [202] ∧
    (begun.live [.visit (.page 2) post, .answer 2 failed, .answer 1 started]).reports.filterMap
      (statusFor 0) = [502] := by
  intro post reset begun failed started
  have posted : post.wish = .ok (.start .syncMasters) := by
    unfold InterfaceRequest.wish Route.ofUri
    dsimp only
    rw [Text.splitOn_slash]
    decide +kernel
  have cleared : reset.wish = .ok .reset := by
    unfold InterfaceRequest.wish Route.ofUri
    dsimp only
    rw [Text.splitOn_slash]
    decide +kernel
  refine ⟨posted, ?_⟩
  simp only [begun, live_cons, live_nil, step, visit_of_wish posted, visit_of_wish cleared]
  decide +kernel

end Desk

end Watchdesk
