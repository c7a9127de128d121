import Watchdesk.Proofs.Clock.Share
import Watchdesk.Proofs.Desk.Calls
import Watchdesk.Proofs.Running.Loop

/-!
# The runner of a desk

What a desk does with its runner is a run of the runner alone: an agenda of the runner's own shows
its share of the desk's agenda, and the starts and questions that have not settled are the desk's
calls for them. So what holds of every run of a runner holds of the runner of every desk.
-/

namespace Watchdesk

/-- The epoch under which work on the agenda asks for the state of the runner's job. -/
def Duty.questionOf : Duty → Option Nat
  | .question epoch => some epoch
  | .poll _ _ | .removal _ => none

/-- The epoch of the run whose start the task settles. -/
def Task.startOf : Task → Option Nat
  | .start epoch _ _ => some epoch
  | .poll _ _ | .question _ | .probe _ | .batch _ _ => none

/-- The epoch of the run whose question the task settles. -/
def Task.questionOf : Task → Option Nat
  | .question epoch => some epoch
  | .poll _ _ | .start _ _ _ | .probe _ | .batch _ _ => none

/-- The task is not the runner's. -/
def Task.Foreign (task : Task) : Prop := task.startOf = none ∧ task.questionOf = none

theorem questionOf_inv : Function.IsPartialInv Duty.question Duty.questionOf := by
  intro epoch duty
  cases duty <;> simp [Duty.questionOf, eq_comm]

theorem foreign_of_isExport {task : Task} (own : task.isExport = true) : task.Foreign := by
  cases task with
  | poll other caller => cases own
  | start epoch caller anyReply => cases own
  | question epoch => cases own
  | probe order => exact ⟨rfl, rfl⟩
  | batch order run => exact ⟨rfl, rfl⟩

namespace Desk

/-- A runner at work follows the runner of a desk: the runner itself, its share of the agenda, and
the calls for its starts and questions. -/
structure Follows (c : Chase) (d : Desk) : Prop where
  runner : c.runner = d.runner
  agenda : Agenda.Mirrors Duty.questionOf c.agenda d.agenda
  starts : c.starts.Perm (d.tasks.filterMap Task.startOf)
  questions : c.questions.Perm (d.tasks.filterMap Task.questionOf)

variable {settings : Settings} {d e : Desk} {c : Chase}

/-! ## What leaves the runner as it is -/

theorem Follows.of_same (follows : Follows c d) (runner : e.runner = d.runner)
    (agenda : e.agenda = d.agenda) (tasks : e.tasks = d.tasks) : Follows c e where
  runner := follows.runner.trans runner.symm
  agenda := agenda ▸ follows.agenda
  starts := tasks ▸ follows.starts
  questions := tasks ▸ follows.questions

theorem Follows.aside (follows : Follows c d) (aside : Aside d e) : Follows c e :=
  follows.of_same (congrArg Core.runner aside.core) (congrArg Core.agenda aside.core)
    (tasks_of_same (congrArg Core.calls aside.core))

theorem Follows.order_foreign {ο : Type} {duty : ο → Duty} (follows : Follows c d)
    (foreign : ∀ key, Duty.questionOf (duty key) = none) (orders : List (Order ο)) :
    Follows c (d.order duty orders) :=
  { follows with agenda := follows.agenda.obeyAll_foreign foreign orders }

theorem Follows.withStore (follows : Follows c d) (feed : Feed)
    (store : Store feed.State Observer) : Follows c (d.withStore feed store) :=
  follows.of_same (withStore_runner d feed store) (withStore_agenda d feed store)
    (tasks_of_same (withStore_calls d feed store))

theorem Follows.follow (follows : Follows c d) (feed : Feed)
    (change : Store feed.State Observer × List (Order Nat)) :
    Follows c (d.follow feed change) :=
  (follows.withStore feed change.1).order_foreign (fun _ => rfl) change.2

theorem Follows.stir (stir : Stir d e) (follows : Follows c d) : Follows c e := by
  induction stir with
  | trans _ _ first second => exact second (first follows)
  | aside aside => exact follows.aside aside
  | removal d orders => exact follows.order_foreign (fun _ => rfl) orders
  | unsubscribe d feed id => exact follows.follow feed _

theorem filterMap_call_of_none {f : Task → Option Nat} {task : Task} (skipped : f task = none)
    (d : Desk) (request : Request) :
    (d.call request task).tasks.filterMap f = d.tasks.filterMap f := by
  rw [tasks_call, List.filterMap_append, List.filterMap_cons_none skipped, List.filterMap_nil,
    List.append_nil]

theorem Follows.call_foreign {task : Task} (follows : Follows c d) (foreign : task.Foreign)
    (request : Request) : Follows c (d.call request task) :=
  { follows with
    starts := by
      rw [filterMap_call_of_none foreign.1]
      exact follows.starts
    questions := by
      rw [filterMap_call_of_none foreign.2]
      exact follows.questions }

/-- What other calls are waited for under stays waited for. -/
theorem Orderly.filterMap_forget_of_none {f : Task → Option Nat} {call : Call}
    (orderly : Orderly settings d) (pending : call ∈ d.calls) (skipped : f call.task = none)
    {waits : List Nat} (waited : waits.Perm (d.tasks.filterMap f)) :
    waits.Perm ((d.forget call.ticket).tasks.filterMap f) := by
  have left := (orderly.tasks_perm pending).filterMap f
  rw [List.filterMap_cons_none skipped] at left
  exact waited.trans left

theorem Follows.forget_foreign {call : Call} (follows : Follows c d)
    (orderly : Orderly settings d) (pending : call ∈ d.calls) (foreign : call.task.Foreign) :
    Follows c (d.forget call.ticket) :=
  { follows with
    starts := orderly.filterMap_forget_of_none pending foreign.1 follows.starts
    questions := orderly.filterMap_forget_of_none pending foreign.2 follows.questions }

theorem Follows.poll (follows : Follows c d) (feed : Feed) (caller : Option Caller) :
    Follows c (d.poll feed caller) := by
  unfold Desk.poll
  split
  · exact follows.aside (tellPolled_aside d caller feed)
  · exact (follows.withStore feed _).call_foreign ⟨rfl, rfl⟩ _

theorem Follows.settleStore (follows : Follows c d) (feed : Feed)
    (outcome : Except Fault feed.State) : Follows c (d.settleStore feed outcome) := by
  unfold Desk.settleStore
  exact ((follows.withStore feed _).stir (deliverAll_stir _ _ _)).follow feed _

/-! ## What the runner does -/

/-- An operation of the runner, whose orders are carried out on its share of the agenda. -/
theorem Follows.runner_follow (follows : Follows c d) (change : Runner × List (Order Nat)) :
    Follows (c.follow change) ({ d with runner := change.1 }.order .question change.2) where
  runner := rfl
  agenda := follows.agenda.obeyAll_own questionOf_inv change.2
  starts := follows.starts
  questions := follows.questions

/-- The start of a run is called for. -/
theorem Follows.call_start (follows : Follows c d) (request : Request) (epoch : Nat)
    (caller : Caller) (anyReply : Bool) :
    Follows { c with starts := c.starts ++ [epoch] }
      (d.call request (.start epoch caller anyReply)) :=
  { follows with
    starts := by
      rw [tasks_call, List.filterMap_append]
      exact follows.starts.append_right [epoch]
    questions := by
      rw [filterMap_call_of_none rfl]
      exact follows.questions }

/-- A question is called for. -/
theorem Follows.call_question (follows : Follows c d) (request : Request) (epoch : Nat) :
    Follows { c with questions := c.questions ++ [epoch] } (d.call request (.question epoch)) :=
  { follows with
    starts := by
      rw [filterMap_call_of_none rfl]
      exact follows.starts
    questions := by
      rw [tasks_call, List.filterMap_append]
      exact follows.questions.append_right [epoch] }

/-- The start of a run settles. -/
theorem Follows.started {epoch : Nat}
    (follows : Follows { c with starts := c.starts.erase epoch } d)
    (pending : epoch ∈ c.starts) (kept : d.settings = settings) (caller : Caller)
    (outcome : Except Fault Unit) :
    Follows (c.started settings.runner epoch outcome) (d.settleStart epoch caller outcome) := by
  have moved := follows.runner_follow (d.runner.started d.settings.runner epoch outcome)
  have told := moved.aside (tellStarted_aside _ caller)
  unfold Chase.started
  rw [if_pos pending]
  have same : c.runner = d.runner := follows.runner
  rw [same, ← kept]
  exact told

/-- A question of a run settles. -/
theorem Follows.answered {epoch : Nat}
    (follows : Follows { c with questions := c.questions.erase epoch } d)
    (pending : epoch ∈ c.questions) (kept : d.settings = settings)
    (result : Except Fault String) :
    Follows (c.answered settings.runner epoch (readBody JobState.decoder result))
      (d.settleQuestion epoch result) := by
  let change := d.runner.answered d.settings.runner epoch (readBody JobState.decoder result)
  have told : Aside ({ d with runner := change.1 }.order .question change.2)
      (d.settleQuestion epoch result) := by
    unfold Desk.settleQuestion
    dsimp only
    split
    · exact ⟨rfl, Nat.le_refl _⟩
    · exact ⟨rfl, Nat.le_refl _⟩
  have same : c.runner = d.runner := follows.runner
  unfold Chase.answered
  rw [if_pos pending, same, ← kept]
  exact { (follows.runner_follow change).aside told with }

/-- A run that is accepted calls for its start, or settles it at once. -/
theorem Follows.run (follows : Follows c d) (kept : d.settings = settings) (caller : Caller)
    (jobId message : String) (starter : Starter) :
    ∃ events, Follows (Chase.run settings.runner c events)
      (d.run caller jobId message starter) := by
  unfold Desk.run
  split
  · exact ⟨[], follows.aside (tellRefused_aside d caller)⟩
  · next runner orders accepted =>
    have begun : c.begin jobId message =
        { c with starts := c.starts ++ [runner.epoch] }.follow (runner, orders) := by
      unfold Chase.begin
      rw [follows.runner, accepted]
    have moved := follows.runner_follow (runner, orders)
    have called (request : Request) (anyReply : Bool) :
        Follows (Chase.run settings.runner c [.begin jobId message])
          (({ d with runner }.order .question orders).call request
            (.start runner.epoch caller anyReply)) := by
      show Follows (c.begin jobId message) _
      rw [begun]
      exact moved.call_start request runner.epoch caller anyReply
    cases starter with
    | done result =>
      refine ⟨[.begin jobId message, .started runner.epoch result], ?_⟩
      show Follows ((c.begin jobId message).started settings.runner runner.epoch result) _
      rw [begun]
      have erased : ((c.starts ++ [runner.epoch]).erase runner.epoch).Perm c.starts := by
        have front := (List.perm_append_singleton runner.epoch c.starts).erase runner.epoch
        rwa [List.erase_cons_head] at front
      have waiting : Follows
          { { c with starts := c.starts ++ [runner.epoch] }.follow (runner, orders) with
            starts := (c.starts ++ [runner.epoch]).erase runner.epoch }
          ({ d with runner }.order .question orders) :=
        { moved with starts := erased.trans moved.starts }
      exact Follows.started waiting (by simp [Chase.follow]) kept caller result
    | request request => exact ⟨[.begin jobId message], called request true⟩
    | kind kind => exact ⟨[.begin jobId message], called _ false⟩

/-- What a call that settles was waited for under is no longer waited for. -/
theorem Orderly.filterMap_forget_of_some {f : Task → Option Nat} {call : Call} {epoch : Nat}
    (orderly : Orderly settings d) (pending : call ∈ d.calls) (own : f call.task = some epoch)
    {waits : List Nat} (waited : waits.Perm (d.tasks.filterMap f)) :
    epoch ∈ waits ∧ (waits.erase epoch).Perm ((d.forget call.ticket).tasks.filterMap f) := by
  have left := waited.trans ((orderly.tasks_perm pending).filterMap f)
  rw [List.filterMap_cons_some own] at left
  have rest := left.erase epoch
  rw [List.erase_cons_head] at rest
  exact ⟨left.mem_iff.mpr List.mem_cons_self, rest⟩

/-- A start that settles is one that the runner waits for. -/
theorem Follows.forget_start {call : Call} {epoch : Nat} (follows : Follows c d)
    (orderly : Orderly settings d) (pending : call ∈ d.calls)
    (start : call.task.startOf = some epoch) (other : call.task.questionOf = none) :
    epoch ∈ c.starts ∧
      Follows { c with starts := c.starts.erase epoch } (d.forget call.ticket) := by
  obtain ⟨waiting, rest⟩ := orderly.filterMap_forget_of_some pending start follows.starts
  have others := orderly.filterMap_forget_of_none pending other follows.questions
  exact ⟨waiting, { follows with starts := rest, questions := others }⟩

/-- A question that settles is one that the runner waits for. -/
theorem Follows.forget_question {call : Call} {epoch : Nat} (follows : Follows c d)
    (orderly : Orderly settings d) (pending : call ∈ d.calls)
    (question : call.task.questionOf = some epoch) (other : call.task.startOf = none) :
    epoch ∈ c.questions ∧
      Follows { c with questions := c.questions.erase epoch } (d.forget call.ticket) := by
  obtain ⟨waiting, rest⟩ := orderly.filterMap_forget_of_some pending question follows.questions
  have others := orderly.filterMap_forget_of_none pending other follows.starts
  exact ⟨waiting, { follows with starts := others, questions := rest }⟩

/-- Work on the agenda is due: the timer of the runner fires, or something else happens. -/
theorem Follows.ring {alarm : Alarm Duty} {agenda : Agenda Duty} (follows : Follows c d)
    (valid : c.Valid) (taken : d.agenda.takeDue d.now = some (alarm, agenda))
    (settings : RunnerSettings) :
    ∃ events, Follows (Chase.run settings c events) ({ d with agenda }.ring alarm.key) := by
  have elsewhere (foreign : alarm.key.questionOf = none) : Follows c { d with agenda } :=
    { follows with agenda := follows.agenda.takeDue_foreign taken foreign }
  cases key : alarm.key with
  | poll feed number =>
    have left := elsewhere (by rw [key]; rfl)
    exact ⟨[], (left.withStore feed _).poll feed none⟩
  | question epoch =>
    have few := Agenda.length_alarms_le_one valid.keys
    have reads : alarm.key.questionOf = some epoch := by rw [key]; rfl
    obtain ⟨left, due, mirrors⟩ := follows.agenda.takeDue_own few taken reads
    rw [Desk.now, ← follows.agenda.now] at due
    refine ⟨[.fire], ?_⟩
    show Follows c.fire ({ d with agenda }.question epoch)
    have popped : Follows { c with agenda := left } { d with agenda } :=
      { follows with agenda := mirrors }
    unfold Chase.fire Desk.question
    simp only [due]
    rw [follows.runner]
    cases d.runner.fire epoch with
    | none => exact { popped with runner := rfl }
    | some runner =>
      have asked : Follows { c with agenda := left, runner } { d with agenda, runner } :=
        { popped with runner := rfl }
      exact { asked.call_question (.get d.settings.backend.jobUrl) epoch with }
  | removal notice =>
    have left := elsewhere (by rw [key]; rfl)
    exact ⟨[], left.stir (dismiss_stir _ notice)⟩

/-! ## Whatever happens -/

/-- Whatever a desk does, a runner alone does its part of it. -/
theorem Follows.moves (moves : Moves d e) (orderly : Orderly settings d) (valid : c.Valid)
    (follows : Follows c d) : ∃ events, Follows (Chase.run settings.runner c events) e := by
  induction moves generalizing c with
  | trans early _ first second =>
    obtain ⟨before, follows⟩ := first orderly valid follows
    have still := Chase.run_valid valid settings.runner before
    obtain ⟨after, follows⟩ := second (orderly.moves early) still follows
    refine ⟨before ++ after, ?_⟩
    rw [Chase.run_append]
    exact follows
  | stir stir => exact ⟨[], follows.stir stir⟩
  | subscribe d feed observer => exact ⟨[], follows.follow feed _⟩
  | poll d feed caller => exact ⟨[], follows.poll feed caller⟩
  | @settlePoll d call feed caller pending task result =>
    have forgotten := follows.forget_foreign orderly pending (by rw [task]; exact ⟨rfl, rfl⟩)
    exact ⟨[], (forgotten.settleStore feed _).aside (tellPolled_aside _ caller feed)⟩
  | run d caller jobId message starter =>
    exact follows.run orderly.settings caller jobId message starter
  | reset d =>
    refine ⟨[.reset], ?_⟩
    have moved := follows.runner_follow d.runner.reset
    show Follows (c.follow c.runner.reset) _
    rw [follows.runner]
    exact moved
  | @settleStart d call epoch caller anyReply pending task outcome =>
    have start : call.task.startOf = some epoch := by rw [task]; rfl
    have other : call.task.questionOf = none := by rw [task]; rfl
    obtain ⟨waiting, forgotten⟩ := follows.forget_start orderly pending start other
    exact ⟨[.started epoch outcome], forgotten.started waiting orderly.settings caller outcome⟩
  | @settleQuestion d call epoch pending task result =>
    have question : call.task.questionOf = some epoch := by rw [task]; rfl
    have other : call.task.startOf = none := by rw [task]; rfl
    obtain ⟨waiting, forgotten⟩ := follows.forget_question orderly pending question other
    exact ⟨[.answered epoch _], forgotten.answered waiting orderly.settings result⟩
  | call d request own => exact ⟨[], follows.call_foreign (foreign_of_isExport own) request⟩
  | forget pending own =>
    exact ⟨[], follows.forget_foreign orderly pending (foreign_of_isExport own)⟩
  | resend pending =>
    exact ⟨[], follows.of_same rfl rfl ((orderly.only pending).resend_tasks)⟩
  | pass d span => exact ⟨[.pass span], { follows with agenda := follows.agenda.pass span }⟩
  | ring taken => exact follows.ring valid taken _

/-- In the life of a desk, a runner alone lives its part of it. -/
theorem Follows.live (orderly : Orderly settings d) (valid : c.Valid) (follows : Follows c d)
    (events : List Event) : ∃ part, Follows (Chase.run settings.runner c part) (d.live events) := by
  induction events generalizing d c with
  | nil =>
    refine ⟨[], ?_⟩
    rw [live_nil, Chase.run_nil]
    exact follows
  | cons event events ih =>
    have moves := step_moves d event
    rw [live_cons]
    obtain ⟨before, follows⟩ := follows.moves moves orderly valid
    have still := Chase.run_valid valid settings.runner before
    obtain ⟨after, follows⟩ := ih (orderly.moves moves) still follows
    refine ⟨before ++ after, ?_⟩
    rw [Chase.run_append]
    exact follows

/-- In every life of a desk, its runner is where a run of the runner alone ends. -/
theorem live_followed (settings : Settings) (hooked : Bool) (events : List Event) :
    ∃ part, Follows (Chase.run settings.runner {} part)
      ((ofSettings settings hooked).live events) := by
  have follows : Follows {} (ofSettings settings hooked) :=
    ⟨rfl, ⟨rfl, List.Perm.refl _⟩, List.Perm.refl _, List.Perm.refl _⟩
  exact follows.live (ofSettings_orderly settings hooked) Chase.empty_valid events

/-- In every life of a desk, its runner has at most one question on the agenda. If the runner runs,
it waits for exactly one thing of its current run, which is the start, the time of the next question
or the answer to one; otherwise no question is on the agenda, and no call belongs to the current
run. -/
theorem live_questions (settings : Settings) (hooked : Bool) (events : List Event) :
    let d := (ofSettings settings hooked).live events
    let timers := (Agenda.share Duty.questionOf d.agenda.alarms).length
    let starts := (d.tasks.filterMap Task.startOf).count d.runner.epoch
    let questions := (d.tasks.filterMap Task.questionOf).count d.runner.epoch
    timers ≤ 1 ∧ (d.runner.view.loading = true ↔ d.runner.view.status = .running) ∧
      starts + timers + questions = if d.runner.view.status = .running then 1 else 0 := by
  intro d timers starts questions
  obtain ⟨part, follows⟩ := live_followed settings hooked events
  have valid := Chase.run_valid Chase.empty_valid settings.runner part
  generalize Chase.run _ _ part = c at follows valid
  have live : timers = c.agenda.alarms.length := follows.agenda.alarms.length_eq.symm
  have few := Agenda.length_alarms_le_one valid.keys
  have loaded := valid.loaded
  rw [Chase.load, valid.count_keys, Agenda.length_keys, follows.runner, follows.starts.count_eq,
    follows.questions.count_eq, ← live] at loaded
  have loading := valid.loading
  rw [follows.runner] at loading
  exact ⟨live ▸ few, loading, loaded⟩

/-! ## Superseded runs -/

/-- The start of a superseded run settles: its caller is told, and that is all. -/
theorem settleStart_superseded {epoch : Nat} (stale : d.runner.epoch ≠ epoch) (caller : Caller)
    (outcome : Except Fault Unit) : d.settleStart epoch caller outcome = d.tellStarted caller := by
  unfold settleStart
  rw [Runner.started_stale stale]
  rfl

/-- A question of a superseded run settles, and nothing happens. -/
theorem settleQuestion_superseded {epoch : Nat} (stale : d.runner.epoch ≠ epoch)
    (result : Except Fault String) : d.settleQuestion epoch result = d := by
  simp only [settleQuestion, Runner.answered_stale stale, Runner.succeeds_stale stale,
    Bool.and_false, Bool.false_eq_true, if_false]
  rfl

end Desk

end Watchdesk
