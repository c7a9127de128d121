import Watchdesk.Proofs.Clock.Timers
import Watchdesk.Proofs.Running.Chase

/-!
# One loop at a time

A runner that runs waits for exactly one thing of its current run: the start, the next question's
time, or the answer to a question. A runner that does not run waits for nothing. The invariant
`Valid` says so; what belongs to earlier runs may still settle, and is counted by no part of it.
-/

namespace Watchdesk

namespace Runner

/-- A run that is accepted finds no other one under way, and has an epoch and a view of its own. -/
theorem begin_eq_some {r : Runner} {jobId message : String}
    {change : Runner × List (Order Nat)} (accepted : r.begin jobId message = some change) :
    r.view.status ≠ .running ∧ change.1.epoch = r.epoch + 1 ∧ change.1.timer = none ∧
      change.1.view = { status := .running, message, jobId := some jobId, loading := true } ∧
      change.2 = r.release := by
  unfold begin at accepted
  split at accepted
  · cases accepted
  · next idle =>
    cases accepted
    exact ⟨idle, rfl, rfl, rfl, rfl⟩

/-- A run that is under way goes on with a timer for its next question, or it is over. -/
def GoesOn (r : Runner) (change : Runner × List (Order Nat)) : Prop :=
  change.1.epoch = r.epoch ∧
    (change.1.timer = some r.epoch ∧ (∃ delay, change.2 = [.schedule r.epoch delay]) ∧
        change.1.view.status = .running ∧ change.1.view.loading = r.view.loading ∨
      change.1.timer = none ∧ change.2 = [] ∧
        change.1.view.status ≠ .running ∧ change.1.view.loading = false)

/-- The start of the current run, when it settles. -/
theorem started_goesOn {r : Runner} (running : r.view.status = .running)
    (settings : RunnerSettings) (result : Except Fault Unit) :
    r.GoesOn (r.started settings r.epoch result) := by
  cases result with
  | ok value =>
    simp only [started, if_pos]
    exact ⟨rfl, Or.inl ⟨rfl, ⟨_, rfl⟩, running, rfl⟩⟩
  | error fault =>
    simp only [started, if_pos]
    exact ⟨rfl, Or.inr ⟨rfl, rfl, by simp [write], rfl⟩⟩

/-- A state of a job that does not run resolves the view. -/
theorem resolved_over (v : RunnerView) {state : JobState} (ended : state.status ≠ .running) :
    (resolved v state).status ≠ .running ∧ (resolved v state).loading = false := by
  unfold resolved
  cases status : state.status with
  | running => exact absurd status ended
  | completed => simp
  | failed => simp
  | idle => simp

/-- A question of the current run, when it settles. -/
theorem answered_goesOn (r : Runner) (settings : RunnerSettings)
    (outcome : Except Fault JobState) : r.GoesOn (r.answered settings r.epoch outcome) := by
  cases outcome with
  | error fault =>
    simp only [answered, if_pos]
    exact ⟨rfl, Or.inr ⟨rfl, rfl, by simp [write], rfl⟩⟩
  | ok state =>
    by_cases running : state.status = .running
    · simp only [answered, ne_eq, not_true_eq_false, if_false, running, if_true]
      exact ⟨rfl, Or.inl ⟨rfl, ⟨_, rfl⟩, rfl, rfl⟩⟩
    · simp only [answered, ne_eq, not_true_eq_false, if_false, running]
      have resolved := resolved_over r.view running
      exact ⟨rfl, Or.inr ⟨rfl, rfl, resolved.1, resolved.2⟩⟩

/-- The start of an earlier run finds out that it is late. -/
theorem started_stale {r : Runner} {epoch : Nat} (stale : r.epoch ≠ epoch)
    (settings : RunnerSettings) (result : Except Fault Unit) :
    r.started settings epoch result = (r, []) := by
  cases result <;> simp [started, stale]

/-- A question of an earlier run finds out that it is late. -/
theorem answered_stale {r : Runner} {epoch : Nat} (stale : r.epoch ≠ epoch)
    (settings : RunnerSettings) (outcome : Except Fault JobState) :
    r.answered settings epoch outcome = (r, []) := by
  cases outcome <;> simp [answered, stale]

/-- A question of an earlier run tells of no success. -/
theorem succeeds_stale {r : Runner} {epoch : Nat} (stale : r.epoch ≠ epoch)
    (outcome : Except Fault JobState) : r.succeeds epoch outcome = false := by
  cases outcome <;> simp [succeeds, stale]

end Runner

namespace Chase

/-- What a chase waits for on behalf of one run: its start, its timer and its question. -/
def load (c : Chase) (epoch : Nat) : Nat :=
  c.starts.count epoch + c.agenda.keys.count epoch + c.questions.count epoch

/-- What holds of a chase in every run, also between the two halves of a step. -/
structure Sound (c : Chase) : Prop where
  /-- The live timer is the one that the runner remembers. -/
  keys : c.agenda.keys = c.runner.timer.toList
  /-- The timer belongs to the current run. -/
  current : ∀ epoch ∈ c.runner.timer, epoch = c.runner.epoch
  /-- Starts belong to runs that have begun. -/
  begun : ∀ epoch ∈ c.starts, epoch ≤ c.runner.epoch
  /-- Questions belong to runs that have begun. -/
  questioned : ∀ epoch ∈ c.questions, epoch ≤ c.runner.epoch
  loading : c.runner.view.loading = true ↔ c.runner.view.status = .running

/-- What holds of a chase in every run. -/
structure Valid (c : Chase) : Prop extends Sound c where
  /-- The runner runs as long as there is something that its current run waits for. -/
  loaded : c.load c.runner.epoch = if c.runner.view.status = .running then 1 else 0

theorem empty_valid : Valid {} where
  keys := rfl
  current := by simp
  begun := by simp
  questioned := by simp
  loading := by decide
  loaded := by decide

/-- Every live timer belongs to the current run, and counts for it. -/
theorem Sound.count_keys {c : Chase} (sound : c.Sound) :
    c.agenda.keys.count c.runner.epoch = c.agenda.keys.length := by
  rw [sound.keys]
  cases timer : c.runner.timer with
  | none => rfl
  | some epoch => simp [sound.current epoch timer]

theorem Sound.load_eq {c : Chase} (sound : c.Sound) :
    c.load c.runner.epoch = c.starts.count c.runner.epoch + c.agenda.alarms.length +
      c.questions.count c.runner.epoch := by
  rw [load, sound.count_keys, Agenda.length_keys]

/-- A run that waits for something is under way, and waits for nothing else. -/
theorem Valid.running_of_load {c : Chase} (valid : c.Valid) (waits : 0 < c.load c.runner.epoch) :
    c.runner.view.status = .running ∧ c.load c.runner.epoch = 1 := by
  have loaded := valid.loaded
  split at loaded
  · next running => exact ⟨running, loaded⟩
  · omega

/-- The only thing that the current run waited for has settled, and the run goes on or is over. -/
theorem Sound.goesOn {c : Chase} (sound : c.Sound) {change : Runner × List (Order Nat)}
    (moved : c.runner.GoesOn change) (running : c.runner.view.status = .running)
    (idle : c.load c.runner.epoch = 0) : (c.follow change).Valid := by
  obtain ⟨epoch, rest⟩ := moved
  have still : c.agenda.keys = [] := by
    rw [← List.length_eq_zero_iff, ← sound.count_keys]
    unfold load at idle
    omega
  have loading := sound.loading.mpr running
  have begun : ∀ n ∈ c.starts, n ≤ change.1.epoch := epoch ▸ sound.begun
  have questioned : ∀ n ∈ c.questions, n ≤ change.1.epoch := epoch ▸ sound.questioned
  unfold load at idle
  rcases rest with ⟨timer, ⟨delay, orders⟩, goes, keeps⟩ | ⟨timer, orders, ended, quiet⟩
  · have keys : (c.agenda.obeyAll change.2).keys = [c.runner.epoch] := by
      rw [orders]
      exact Agenda.keys_schedule_of_nil still _ _
    exact
      { keys := by rw [follow, timer]; exact keys
        current := by
          intro n member
          rw [follow, timer] at member
          cases member
          exact epoch.symm
        begun, questioned
        loading := ⟨fun _ => goes, fun _ => keeps.trans loading⟩
        loaded := by
          simp only [load, follow, epoch, goes, if_true, keys, List.count_singleton_self]
          omega }
  · have keys : (c.agenda.obeyAll change.2).keys = [] := by
      rw [orders]
      exact still
    exact
      { keys := by rw [follow, timer]; exact keys
        current := by
          intro n member
          rw [follow, timer] at member
          cases member
        begun, questioned
        loading := by simp [follow, ended, quiet]
        loaded := by
          simp only [load, follow, epoch, ended, if_false, keys, List.count_nil]
          omega }

/-- A new epoch begins with nothing that it waits for: the timer before it is struck off. -/
theorem Sound.renew {c : Chase} (sound : c.Sound) (change : Runner × List (Order Nat))
    (epoch : change.1.epoch = c.runner.epoch + 1) (timer : change.1.timer = none)
    (orders : change.2 = c.runner.release)
    (loading : change.1.view.loading = true ↔ change.1.view.status = .running) :
    (c.follow change).Sound ∧ (c.follow change).load change.1.epoch = 0 := by
  have keys : (c.agenda.obeyAll change.2).keys = [] := by
    rw [orders]
    exact Agenda.keys_release sound.keys
  have starts : c.starts.count change.1.epoch = 0 := by
    rw [List.count_eq_zero]
    intro member
    have bound := sound.begun _ member
    omega
  have questions : c.questions.count change.1.epoch = 0 := by
    rw [List.count_eq_zero]
    intro member
    have bound := sound.questioned _ member
    omega
  constructor
  · exact
      { keys := by rw [follow, timer]; exact keys
        current := by
          intro n member
          rw [follow, timer] at member
          cases member
        begun := by
          intro n member
          have bound := sound.begun n member
          show n ≤ change.1.epoch
          omega
        questioned := by
          intro n member
          have bound := sound.questioned n member
          show n ≤ change.1.epoch
          omega
        loading }
  · simp only [load, follow, keys, starts, questions, List.count_nil]

theorem reset_valid {c : Chase} (valid : c.Valid) : (c.follow c.runner.reset).Valid := by
  have quiet : c.runner.reset.1.view.loading = true ↔ c.runner.reset.1.view.status = .running := by
    simp [Runner.reset, Runner.write]
  have renewed := valid.toSound.renew c.runner.reset rfl rfl rfl quiet
  exact { renewed.1 with loaded := renewed.2 }

/-- A job that is accepted waits for its start. -/
theorem begin_valid {c : Chase} (valid : c.Valid) (jobId message : String) :
    (c.begin jobId message).Valid := by
  unfold begin
  split
  · exact valid
  · next change accepted =>
    obtain ⟨-, epoch, timer, view, orders⟩ := Runner.begin_eq_some accepted
    have loading : change.1.view.loading = true ↔ change.1.view.status = .running := by
      simp [view]
    obtain ⟨sound, idle⟩ := valid.toSound.renew change epoch timer orders loading
    exact
      { sound with
        begun := by
          intro n member
          rcases List.mem_append.mp member with earlier | own
          · exact sound.begun n earlier
          · exact Nat.le_of_eq (List.mem_singleton.mp own)
        loaded := by
          have running : change.1.view.status = .running := by rw [view]
          simp only [load, follow, running, if_true, List.count_append,
            List.count_singleton_self] at idle ⊢
          omega }

/-- The timer that fires belongs to the current run, which then waits for an answer. -/
theorem fire_valid {c : Chase} (valid : c.Valid) : c.fire.Valid := by
  unfold fire
  split
  · exact valid
  · next alarm agenda taken =>
    have keys := Agenda.keys_of_takeDue taken
    have live := keys.symm.trans valid.keys
    cases timer : c.runner.timer with
    | none => simp [timer] at live
    | some epoch =>
      simp only [timer, Option.toList_some, List.cons.injEq] at live
      obtain ⟨same, rest⟩ := live
      have key : alarm.key = c.runner.epoch := same.trans (valid.current epoch timer)
      have fired : c.runner.fire alarm.key = some { c.runner with timer := none } := by
        simp [Runner.fire, key]
      have count : c.load c.runner.epoch =
          c.starts.count c.runner.epoch + 1 + c.questions.count c.runner.epoch := by
        simp [load, keys, rest, key]
      obtain ⟨running, one⟩ := valid.running_of_load (by omega)
      rw [fired]
      exact
        { keys := rest
          current := fun n member => by cases member
          begun := valid.begun
          questioned := by
            intro n member
            rcases List.mem_append.mp member with earlier | own
            · exact valid.questioned n earlier
            · exact Nat.le_of_eq ((List.mem_singleton.mp own).trans key)
          loading := valid.loading
          loaded := by
            simp only [load, running, if_true, rest, key, List.count_nil, List.count_append,
              List.count_singleton_self]
            omega }

/-- A start that settles was all that its run waited for; an earlier run's start is forgotten. -/
theorem started_valid {c : Chase} (valid : c.Valid) (settings : RunnerSettings) (epoch : Nat)
    (result : Except Fault Unit) : (c.started settings epoch result).Valid := by
  unfold started
  split
  · next pending =>
    have sound : ({ c with starts := c.starts.erase epoch } : Chase).Sound :=
      { valid with begun := fun n member => valid.begun n (List.mem_of_mem_erase member) }
    by_cases current : c.runner.epoch = epoch
    · subst current
      have count := List.count_pos_iff.mpr pending
      obtain ⟨running, one⟩ := valid.running_of_load (by unfold load; omega)
      refine sound.goesOn (Runner.started_goesOn running settings result) running ?_
      simp only [load, List.count_erase_self] at one ⊢
      omega
    · rw [Runner.started_stale current settings result]
      have others : (c.starts.erase epoch).count c.runner.epoch = c.starts.count c.runner.epoch :=
        List.count_erase_of_ne current
      have loaded := valid.loaded
      rw [load, ← others] at loaded
      exact { sound with loaded }
  · exact valid

/-- An answer to the current run's question was all that the run waited for; an answer to an
earlier run is forgotten. -/
theorem answered_valid {c : Chase} (valid : c.Valid) (settings : RunnerSettings) (epoch : Nat)
    (outcome : Except Fault JobState) : (c.answered settings epoch outcome).Valid := by
  unfold answered
  split
  · next pending =>
    have sound (told : List RunnerView) :
        ({ c with questions := c.questions.erase epoch, told } : Chase).Sound :=
      { valid with
        questioned := fun n member => valid.questioned n (List.mem_of_mem_erase member) }
    by_cases current : c.runner.epoch = epoch
    · subst current
      have count := List.count_pos_iff.mpr pending
      obtain ⟨running, one⟩ := valid.running_of_load (by unfold load; omega)
      refine (sound _).goesOn (c.runner.answered_goesOn settings outcome) running ?_
      simp only [load, List.count_erase_self] at one ⊢
      omega
    · rw [Runner.answered_stale current settings outcome]
      have others :
          (c.questions.erase epoch).count c.runner.epoch = c.questions.count c.runner.epoch :=
        List.count_erase_of_ne current
      have loaded := valid.loaded
      rw [load, ← others] at loaded
      exact { sound _ with loaded }
  · exact valid

theorem step_valid {c : Chase} (valid : c.Valid) (settings : RunnerSettings) (event : Event) :
    (c.step settings event).Valid := by
  cases event with
  | begin jobId message => exact begin_valid valid jobId message
  | reset => exact reset_valid valid
  | started epoch result => exact started_valid valid settings epoch result
  | answered epoch outcome => exact answered_valid valid settings epoch outcome
  | pass span => exact { valid with }
  | fire => exact fire_valid valid

/-- The invariant holds at the end of every run, and so in every state of it. -/
theorem run_valid {c : Chase} (valid : c.Valid) (settings : RunnerSettings)
    (events : List Event) : (run settings c events).Valid := by
  induction events generalizing c with
  | nil => exact valid
  | cons event events ih => exact ih (step_valid valid settings event)

/-- For every run of the runner and every state of it: the view loads exactly when its status is
running. A runner that runs waits for exactly one thing of its current run, which is its start, its
one live timer, or the answer to a question; a runner that does not run has no live timer and
waits for nothing of its current run. There is never more than one live timer. -/
theorem run_waits (settings : RunnerSettings) (events : List Event) :
    let c := run settings {} events
    let epoch := c.runner.epoch
    let timers := c.agenda.alarms.countP fun alarm => alarm.key = epoch
    (c.runner.view.loading = true ↔ c.runner.view.status = .running) ∧
      (c.runner.view.status = .running →
        c.starts.count epoch + timers + c.questions.count epoch = 1) ∧
      (c.runner.view.status ≠ .running →
        c.agenda.alarms = [] ∧ epoch ∉ c.starts ∧ epoch ∉ c.questions) ∧
      c.agenda.alarms.length ≤ 1 := by
  intro c epoch timers
  have valid : c.Valid := run_valid empty_valid settings events
  have counted : timers = c.agenda.keys.count epoch := by
    simp only [timers, Agenda.keys, List.count, List.countP_map]
    rfl
  have loaded := valid.loaded
  refine ⟨valid.loading, ?_, ?_, Agenda.length_alarms_le_one valid.keys⟩
  · intro running
    rw [if_pos running] at loaded
    rw [counted]
    exact loaded
  · intro idle
    rw [if_neg idle, load, valid.count_keys, Agenda.length_keys] at loaded
    have nothing : c.starts.count c.runner.epoch = 0 ∧ c.agenda.alarms.length = 0 ∧
        c.questions.count c.runner.epoch = 0 := by omega
    obtain ⟨starts, alarms, questions⟩ := nothing
    exact ⟨List.length_eq_zero_iff.mp alarms, List.count_eq_zero.mp starts,
      List.count_eq_zero.mp questions⟩

end Chase

end Watchdesk
