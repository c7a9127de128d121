import Watchdesk.Proofs.Desk.Steady

/-!
# Announced jobs

The desk's announcer gets every snapshot of the job store once for each time that it is attached,
and a snapshot after a failed poll shows the job that was reported before. Neither makes it
announce anything: what it announces is read off the states that were reported, one next to the
other.
-/

namespace Watchdesk

/-- The notice that is due when one state of the job is reported after another. -/
def JobState.resolved (before after : JobState) : Option NewNotice :=
  if before.status = .running ∧ before.jobId = after.jobId then
    match after.status with
    | .completed => some
      { variant := .success, title := "Job completed"
        description := some (after.message.getD (after.jobId.getD "job" ++ " finished"))
        duration := .persistent }
    | .failed => some
      { variant := .error, title := "Job failed"
        description := some (after.message.getD (after.jobId.getD "job" ++ " failed"))
        duration := .persistent }
    | .idle | .running => none
  else none

/-- The notices that are due for the states that were reported, one after another. -/
def JobState.resolutions (jobs : List JobState) : List NewNotice :=
  (jobs.zip jobs.tail).filterMap fun pair => pair.1.resolved pair.2

/-- What an announcer remembers of a job. -/
def JobState.observation (job : JobState) : Observation := ⟨job.status, job.jobId⟩

namespace Announcer

/-- The notices that an announcer publishes about a snapshot. -/
def notices (a : Announcer) (s : JobSnapshot) : List NewNotice :=
  (a.observe s).2.toList.map Prod.snd

variable {a : Announcer} {s : JobSnapshot} {job : JobState}

theorem observe_of_unknown (unknown : s.job = none) : a.observe s = (a, none) := by
  rw [observe, unknown]

theorem observe_previous (known : s.job = some job) :
    (a.observe s).1.previous = some job.observation := by
  rw [observe, known]
  rfl

/-- A job that is shown again is not announced again. -/
theorem observe_of_same (known : s.job = some job) (same : a.previous = some job.observation) :
    a.observe s = (a, none) := by
  have undetected : Resolution.detect (some job.observation) job.observation = none := by
    by_cases running : job.status = .running
    · simp [Resolution.detect, JobState.observation, running]
    · simp [Resolution.detect, JobState.observation, running]
  obtain ⟨previous⟩ := a
  subst same
  rw [observe, known]
  exact congrArg (Prod.mk _) (congrArg (Option.map _) undetected)

/-- An announcer publishes what is due between the job that it remembers and the one shown. -/
theorem notices_of_known {before : Option JobState} (known : s.job = some job)
    (remembered : a.previous = before.map JobState.observation) :
    a.notices s = (before.bind fun earlier => earlier.resolved job).toList := by
  cases before with
  | none =>
    have unseen : (a.observe s).2 = none := by
      rw [observe, known, remembered]
      rfl
    rw [notices, unseen]
    rfl
  | some earlier =>
    have seen : (a.observe s).2 =
        (Resolution.detect (some earlier.observation) job.observation).map
          fun r => (r, r.notice job.message) := by
      rw [observe, known, remembered]
      rfl
    rw [notices, seen, Option.bind_some]
    by_cases goes_on : earlier.status = .running ∧ earlier.jobId = job.jobId
    · obtain ⟨running, same⟩ := goes_on
      cases status : job.status with
      | idle => simp [Resolution.detect, JobState.observation, JobState.resolved, *]
      | running => simp [Resolution.detect, JobState.observation, JobState.resolved, *]
      | completed =>
        simp [Resolution.detect, Resolution.notice, JobState.observation, JobState.resolved, *]
      | failed =>
        simp [Resolution.detect, Resolution.notice, JobState.observation, JobState.resolved, *]
    · have other : earlier.status ≠ .running ∨ earlier.jobId ≠ job.jobId := by
        rw [← not_and_or]
        exact goes_on
      simp [Resolution.detect, JobState.observation, JobState.resolved, goes_on, other]

end Announcer

theorem JobState.resolutions_cons_cons (first second : JobState) (jobs : List JobState) :
    resolutions (first :: second :: jobs) =
      (first.resolved second).toList ++ resolutions (second :: jobs) := by
  show List.filterMap _ ((first, second) :: (second :: jobs).zip jobs) = _
  rw [List.filterMap_cons]
  cases first.resolved second <;> rfl

theorem JobState.resolutions_append_singleton (jobs : List JobState) (job : JobState) :
    resolutions (jobs ++ [job]) =
      resolutions jobs ++ (jobs.getLast?.bind fun earlier => earlier.resolved job).toList := by
  induction jobs with
  | nil => rfl
  | cons first jobs ih =>
    cases jobs with
    | nil => exact (resolutions_cons_cons first job []).trans (List.append_nil _)
    | cons second jobs =>
      have last : (first :: second :: jobs).getLast? = (second :: jobs).getLast? :=
        List.getLast?_cons_cons
      calc resolutions (first :: second :: jobs ++ [job])
        _ = (first.resolved second).toList ++ resolutions (second :: jobs ++ [job]) :=
          resolutions_cons_cons first second (jobs ++ [job])
        _ = _ := by rw [ih, resolutions_cons_cons, List.append_assoc, last]

namespace Desk

variable {settings : Settings} {d e : Desk}

/-! ## What the announcer publishes -/

/-- The notices that the announcer publishes when an observer gets a snapshot. -/
def announced (d : Desk) (s : JobSnapshot) : Observer → List NewNotice
  | .announcer => d.announcer.notices s
  | .keeper | .guest | .watch _ _ => []

/-- The notices that the announcer publishes while all observers of a moment get a snapshot. -/
def announcedTo (d : Desk) (s : JobSnapshot) : List (Nat × Observer) → List NewNotice
  | [] => []
  | o :: observers => d.announced s o.2 ++ (d.deliver (.job s) o.2).announcedTo s observers

/-- The notices that the announcer publishes when a poll of the job settles. -/
def announcedBy (d : Desk) (result : Except Fault String) : List NewNotice :=
  let store := d.jobs.settle (.job d.settings.polling) (Feed.job.read result)
  (d.withStore .job store).announcedTo store.snapshot store.observers

/-- The notices that the announcer publishes because of an event. -/
def announcedIn (d : Desk) (event : Event) : List NewNotice :=
  match d.jobPolled event with
  | none => []
  | some (ticket, result) => (d.forget ticket).announcedBy result

/-- The notices that the announcer publishes in the course of a desk's life. -/
def announcements (d : Desk) : List Event → List NewNotice
  | [] => []
  | event :: events => d.announcedIn event ++ (d.step event).announcements events

/-- The state of the job in the result of a poll, if the poll was successful. -/
def replied (result : Except Fault String) : Option JobState :=
  (readBody JobState.decoder result).toOption

/-- The states of the job that polls bring in the course of a desk's life. -/
def replies (d : Desk) : List Event → List JobState
  | [] => []
  | event :: events =>
    ((d.jobPolled event).bind fun poll => replied poll.2).toList ++ (d.step event).replies events

/-- The announcer is attached whenever a poll of the job settles. -/
def Attended (d : Desk) : List Event → Prop
  | [] => True
  | event :: events =>
    ((d.jobPolled event).isSome → .announcer ∈ d.jobs.observers.map Prod.snd) ∧
      (d.step event).Attended events

instance decidableAttended (d : Desk) (events : List Event) : Decidable (d.Attended events) :=
  match events with
  | [] => isTrue trivial
  | event :: events =>
    have := decidableAttended (d.step event) events
    inferInstanceAs (Decidable (_ ∧ _))

theorem announced_of_other {observer : Observer} (other : observer ≠ .announcer)
    (s : JobSnapshot) : d.announced s observer = [] := by
  cases observer with
  | announcer => exact absurd rfl other
  | _ => rfl

theorem deliver_announcer (d : Desk) (s : JobSnapshot) :
    d.deliver (.job s) .announcer =
      { d.notifyAll (d.announced s .announcer) with announcer := (d.announcer.observe s).1 } := by
  unfold deliver announce announced Announcer.notices
  dsimp only
  split
  · next seen =>
    rw [seen]
    rfl
  · next seen =>
    rw [seen]
    rfl

theorem announcedTo_of_stale {s : JobSnapshot} (stale : d.announcer.observe s = (d.announcer, none))
    (observers : List (Nat × Observer)) :
    d.announcedTo s observers = [] ∧
      (d.deliverAll (.job s) observers).announcer = d.announcer := by
  induction observers generalizing d with
  | nil => exact ⟨rfl, rfl⟩
  | cons first observers ih =>
    have kept : (d.deliver (.job s) first.2).announcer = d.announcer := by
      by_cases own : first.2 = .announcer
      · rw [own, deliver_announcer, stale]
      · exact (Acts.steady (deliver_acts_of_other d _ own)).announcer
    have silent : d.announced s first.2 = [] := by
      by_cases own : first.2 = .announcer
      · rw [own, announced, Announcer.notices, stale]
        rfl
      · exact announced_of_other own s
    obtain ⟨others, still⟩ := ih (by rw [kept, stale])
    exact ⟨by rw [announcedTo, silent, others]; rfl, still.trans kept⟩

/-- However often it is attached, the announcer publishes what is due once. -/
theorem announcedTo_of_attached {s : JobSnapshot} {job : JobState} {before : Option JobState}
    (known : s.job = some job) (remembered : d.announcer.previous = before.map JobState.observation)
    {observers : List (Nat × Observer)} (attached : .announcer ∈ observers.map Prod.snd) :
    d.announcedTo s observers = (before.bind fun earlier => earlier.resolved job).toList ∧
      (d.deliverAll (.job s) observers).announcer.previous = some job.observation := by
  induction observers generalizing d with
  | nil => cases attached
  | cons first observers ih =>
    by_cases own : first.2 = .announcer
    · have heard : (d.deliver (.job s) first.2).announcer = (d.announcer.observe s).1 := by
        rw [own, deliver_announcer]
      have remembers : (d.deliver (.job s) first.2).announcer.previous = some job.observation := by
        rw [heard, Announcer.observe_previous known]
      obtain ⟨others, still⟩ :=
        announcedTo_of_stale (Announcer.observe_of_same known remembers) observers
      refine ⟨?_, (congrArg Announcer.previous still).trans remembers⟩
      rw [announcedTo, others, List.append_nil, own]
      exact Announcer.notices_of_known known remembered
    · have steady : Steady d (d.deliver (.job s) first.2) :=
        Acts.steady (deliver_acts_of_other d _ own)
      have later : .announcer ∈ observers.map Prod.snd := by
        rcases List.mem_cons.mp attached with same | later
        · exact absurd same.symm own
        · exact later
      obtain ⟨due, remembers⟩ := ih (by rw [steady.announcer, remembered]) later
      refine ⟨?_, remembers⟩
      rw [announcedTo, announced_of_other own, due]
      rfl

/-! ## The job that was reported last -/

/-- The store knows the last state that was reported, and the announcer remembers it. -/
structure Heard (jobs : List JobState) (d : Desk) : Prop where
  known : d.jobs.snapshot.job = jobs.getLast?
  previous : d.announcer.previous = jobs.getLast?.map JobState.observation

variable {jobs : List JobState}

theorem Heard.steady (heard : Heard jobs d) (steady : Steady d e) : Heard jobs e where
  known := (congrArg JobSnapshot.job steady.known).trans heard.known
  previous := (congrArg Announcer.previous steady.announcer).trans heard.previous

/-- A successful poll brings another state, and any other keeps the one that is there. -/
theorem settle_job (store : Store JobSnapshot Observer) (settings : PollingSettings)
    (result : Except Fault String) :
    (store.settle (.job settings) (Feed.job.read result)).snapshot.job =
      (replied result).or store.snapshot.job := by
  have read : Feed.job.read result =
      (readBody JobState.decoder result).map fun job => { job := some job } := rfl
  rw [read, replied]
  cases readBody JobState.decoder result with
  | error fault => rfl
  | ok job => rfl

theorem Heard.settlePoll (heard : Heard jobs d)
    (attached : .announcer ∈ d.jobs.observers.map Prod.snd) (caller : Option Caller)
    (result : Except Fault String) :
    Heard (jobs ++ (replied result).toList) (d.settlePoll .job caller result) ∧
      JobState.resolutions (jobs ++ (replied result).toList) =
        JobState.resolutions jobs ++ d.announcedBy result := by
  let store := d.jobs.settle (.job d.settings.polling) (Feed.job.read result)
  let delivered := (d.withStore .job store).deliverAll (.job store.snapshot) store.observers
  have shown : delivered.jobs.snapshot = store.snapshot :=
    Acts.known (deliverAll_acts (by simp) _ _)
  have kept : Steady delivered (d.settlePoll .job caller result) :=
    .trans (follow_steady _ .job (Poller.rearm_snapshot _ _ _))
      (Acts.steady (tellPolled_acts _ caller .job))
  have known : store.snapshot.job = (replied result).or jobs.getLast? := by
    rw [← heard.known]
    exact settle_job d.jobs d.settings.polling result
  cases reply : replied result with
  | none =>
    rw [reply, Option.none_or] at known
    -- The snapshot shows once more what the announcer remembers.
    have stale : d.announcer.observe store.snapshot = (d.announcer, none) := by
      have previous := heard.previous
      cases last : jobs.getLast? with
      | none => exact Announcer.observe_of_unknown (known.trans last)
      | some job =>
        rw [last] at previous
        exact Announcer.observe_of_same (known.trans last) previous
    obtain ⟨silent, still⟩ := announcedTo_of_stale (d := d.withStore .job store) stale
      store.observers
    rw [Option.toList_none, List.append_nil]
    refine ⟨Heard.steady ⟨?_, ?_⟩ kept, ?_⟩
    · rw [shown, known]
    · exact (congrArg Announcer.previous still).trans heard.previous
    · rw [show d.announcedBy result = [] from silent, List.append_nil]
  | some job =>
    rw [reply, Option.some_or] at known
    obtain ⟨due, remembers⟩ := announcedTo_of_attached (d := d.withStore .job store) known
      heard.previous attached
    rw [Option.toList_some]
    refine ⟨Heard.steady ⟨?_, ?_⟩ kept, ?_⟩
    · rw [shown, known, List.getLast?_concat]
    · rw [List.getLast?_concat]
      exact remembers
    · rw [JobState.resolutions_append_singleton]
      exact congrArg _ due.symm

theorem Orderly.announcements (orderly : Orderly settings d) (heard : Heard jobs d)
    {events : List Event} (attended : d.Attended events) :
    JobState.resolutions (jobs ++ d.replies events) =
      JobState.resolutions jobs ++ d.announcements events := by
  induction events generalizing d jobs with
  | nil => simp [replies, Desk.announcements]
  | cons event events ih =>
    obtain ⟨attached, attended⟩ := attended
    have orderly' := orderly.moves (step_moves d event)
    cases polled : d.jobPolled event with
    | none =>
      have still := heard.steady (orderly.step_steady polled)
      have silent : d.announcedIn event = [] := by rw [announcedIn, polled]
      have unheard : d.replies (event :: events) = (d.step event).replies events := by
        rw [replies, polled]
        rfl
      rw [unheard, ih orderly' still attended, Desk.announcements, silent]
      rfl
    | some poll =>
      obtain ⟨ticket, result⟩ := poll
      obtain ⟨caller, stepped⟩ := step_of_jobPolled polled
      have left : Heard jobs (d.forget ticket) := heard.steady (forget_steady d ticket)
      obtain ⟨hears, due⟩ := left.settlePoll (attached (by rw [polled]; rfl)) caller result
      rw [← stepped] at hears
      have told : d.announcedIn event = (d.forget ticket).announcedBy result := by
        rw [announcedIn, polled]
      have heard : d.replies (event :: events) =
          (replied result).toList ++ (d.step event).replies events := by
        rw [replies, polled]
        rfl
      rw [heard, ← List.append_assoc, ih orderly' hears attended, due, Desk.announcements, told,
        List.append_assoc]

/-! ## What reaches the list -/

/-- Two desks have the same list of notices, and would have the same after one more. -/
structure Posted (d e : Desk) : Prop where
  center : e.center = d.center
  now : e.now = d.now

theorem Posted.refl (d : Desk) : Posted d d := ⟨rfl, rfl⟩

theorem Posted.trans {f : Desk} (first : Posted d e) (second : Posted e f) : Posted d f where
  center := second.center.trans first.center
  now := second.now.trans first.now

theorem notify_center (d : Desk) (notice : NewNotice) :
    (d.notify notice).center = (d.center.publish d.now notice).2.1 := rfl

theorem notify_now (d : Desk) (notice : NewNotice) : (d.notify notice).now = d.now :=
  Agenda.obeyAll_now _ _

theorem Posted.notifyAll (posted : Posted d e) (notices : List NewNotice) :
    Posted (d.notifyAll notices) (e.notifyAll notices) := by
  induction notices generalizing d e with
  | nil => exact posted
  | cons notice notices ih =>
    refine ih ⟨?_, ?_⟩
    · rw [notify_center, notify_center, posted.center, posted.now]
    · rw [notify_now, notify_now, posted.now]

theorem unsubscribe_posted (d : Desk) (feed : Feed) (id : Nat) :
    Posted d (d.unsubscribe feed id) := by
  cases feed with
  | job => exact ⟨rfl, Agenda.obeyAll_now _ _⟩
  | health => exact ⟨rfl, Agenda.obeyAll_now _ _⟩

theorem unwatch_posted (d : Desk) (number : Nat) : Posted d (d.unwatch number) := by
  unfold unwatch
  split
  · exact .refl d
  · refine .trans ?_ (unsubscribe_posted _ _ _)
    exact ⟨rfl, rfl⟩

theorem unwatchAll_posted (d : Desk) (numbers : List Nat) :
    Posted d (numbers.foldl unwatch d) := by
  induction numbers generalizing d with
  | nil => exact .refl d
  | cons number numbers ih => exact .trans (unwatch_posted d number) (ih (d.unwatch number))

theorem deliver_posted (d : Desk) (s : JobSnapshot) {observer : Observer}
    (other : observer ≠ .guest) :
    Posted (d.notifyAll (d.announced s observer)) (d.deliver (.job s) observer) := by
  cases observer with
  | keeper => exact .refl d
  | guest => exact absurd rfl other
  | announcer =>
    rw [deliver_announcer]
    exact ⟨rfl, rfl⟩
  | watch number leaves =>
    refine .trans ?_ (unwatchAll_posted _ leaves)
    exact ⟨rfl, rfl⟩

theorem deliverAll_posted (d : Desk) (s : JobSnapshot) {observers : List (Nat × Observer)}
    (unguested : ∀ o ∈ observers, o.2 ≠ .guest) :
    Posted (d.notifyAll (d.announcedTo s observers)) (d.deliverAll (.job s) observers) := by
  induction observers generalizing d with
  | nil => exact .refl d
  | cons first observers ih =>
    have posted := deliver_posted d s (unguested first List.mem_cons_self)
    have others := ih (d.deliver (.job s) first.2) fun o later =>
      unguested o (List.mem_cons_of_mem first later)
    have split : d.notifyAll (d.announcedTo s (first :: observers)) =
        (d.notifyAll (d.announced s first.2)).notifyAll
          ((d.deliver (.job s) first.2).announcedTo s observers) := List.foldl_append
    rw [split]
    exact (posted.notifyAll _).trans others

/-- Where no guest looks on, what the announcer publishes is all that a poll of the job adds. -/
theorem step_center {event : Event} (polled : (d.jobPolled event).isSome)
    (unguested : ∀ o ∈ d.jobs.observers, o.2 ≠ .guest) :
    (d.step event).center = (d.notifyAll (d.announcedIn event)).center := by
  obtain ⟨⟨ticket, result⟩, polled⟩ := Option.isSome_iff_exists.mp polled
  obtain ⟨caller, stepped⟩ := step_of_jobPolled polled
  let store := d.jobs.settle (.job d.settings.polling) (Feed.job.read result)
  let left := (d.forget ticket).withStore .job store
  have told : d.announcedIn event = left.announcedTo store.snapshot store.observers := by
    rw [announcedIn, polled]
    rfl
  have posted : Posted (left.notifyAll (left.announcedTo store.snapshot store.observers))
      (left.deliverAll (.job store.snapshot) store.observers) :=
    deliverAll_posted left store.snapshot unguested
  have begun : Posted d left := ⟨rfl, rfl⟩
  have centered : ((d.forget ticket).settlePoll .job caller result).center =
      (left.deliverAll (.job store.snapshot) store.observers).center := by
    cases caller <;> rfl
  rw [stepped, told, centered, posted.center]
  exact (begun.notifyAll _).center

/-- In every life of a desk whose announcer is attached whenever a poll of the job settles, be it
once or more often, it publishes one notice for each two states next to each other, among those
that successful polls bring, of which the second resolves the first, in their order, and no
other. -/
theorem live_announces (settings : Settings) (hooked : Bool) (events : List Event)
    (attended : (ofSettings settings hooked).Attended events) :
    let d := ofSettings settings hooked
    d.announcements events = JobState.resolutions (d.replies events) ∧
    ∀ (e : Desk) (event : Event), (e.jobPolled event).isSome →
      (∀ o ∈ e.jobs.observers, o.2 ≠ .guest) →
      (e.step event).center = (e.notifyAll (e.announcedIn event)).center := by
  intro d
  have heard : Heard [] d := ⟨rfl, rfl⟩
  have all := (ofSettings_orderly settings hooked).announcements heard attended
  exact ⟨all.symm, fun _ _ polled unguested => step_center polled unguested⟩

/-- A job that completes while a poll fails and the announcer is attached a second time. -/
theorem live_announces_of_outage :
    let d := ofSettings {} false
    let events := [.subscribe .job .announcer, .poll .job none,
      .answer 1 (.ok ⟨200, "\x7b\"status\":\"running\",\"job_id\":\"j\"\x7d"⟩),
      .subscribe .job .announcer, .poll .job none, .answer 2 (.ok ⟨404, ""⟩),
      .unsubscribe .job 0, .poll .job none,
      .answer 3 (.ok ⟨200, "\x7b\"status\":\"completed\",\"job_id\":\"j\"\x7d"⟩)]
    d.Attended events ∧ d.announcements events =
      [{ variant := .success, title := "Job completed", description := some "j finished"
         duration := .persistent }] := by
  intro d events
  have attended : d.Attended events := by decide +kernel
  have due : JobState.resolutions (d.replies events) =
      [{ variant := .success, title := "Job completed", description := some "j finished"
         duration := .persistent }] := by decide +kernel
  exact ⟨attended, (live_announces {} false events attended).1.trans due⟩

end Desk

end Watchdesk
